import SizeSweep.Chart

/-!
Charts drawn as scalable vector graphics: a title, the sizes along the foot, and a polyline and a
name in its colour for every line.  Values are drawn between zero and the largest one; a value that
is no finite number above zero is drawn at the foot.  A drawing is an element for a page to hold.
-/

namespace SizeSweep.Chart

/-- The colours of lines that have no style. -/
def palette : List String :=
  ["#5470c6", "#91cc75", "#fac858", "#ee6666", "#73c0de", "#3ba272", "#fc8452", "#9a60b4",
   "#ea7ccc"]

/-- A text between the tags of a drawing. -/
def escaped (text : String) : String :=
  String.join (text.toList.map fun
    | '&' => "&amp;"
    | '<' => "&lt;"
    | '>' => "&gt;"
    | '"' => "&quot;"
    | c => c.toString)

def textElement (x y : Nat) (color content : String) : String :=
  s!"<text x=\"{x}\" y=\"{y}\" fill=\"{escaped color}\">{escaped content}</text>\n"

/-- The height of a value above the foot, counted in units. -/
def height (x : Binary64) : Nat :=
  if x.isFinite && !x.negative then Binary64.units x.magnitude else 0

/-- The place of the `i`-th of `count` sizes from the left edge. -/
def across (i count : Nat) : Nat := 80 + 1080 * i / (max 2 count - 1)

/-- The polyline of values below a ceiling. -/
def polyline (ceiling : Nat) (color : String) (values : List Binary64) : String :=
  let points := values.zipIdx.map fun (x, i) =>
    let y := 740 - 640 * height x / max 1 ceiling
    s!"{across i values.length},{y}"
  let joined := " ".intercalate points
  s!"<polyline fill=\"none\" stroke=\"{escaped color}\" points=\"{joined}\"/>\n"

def drawing (chart : Chart) (colors : List String) : String :=
  let ceiling := (chart.lines.flatMap fun line => line.2.map height).foldl max 0
  let lines := (chart.lines.zip colors).map fun (line, color) => polyline ceiling color line.2
  let names := (chart.lines.zip colors).zipIdx.map fun ((line, color), i) =>
    textElement (80 + 160 * i) 60 color line.1
  let sizes := chart.sizes.zipIdx.map fun (size, i) =>
    textElement (across i chart.sizes.length) 770 "black" (toString size)
  "<svg width=\"1200\" height=\"800\">\n" ++
    textElement 80 30 "black" chart.title ++ String.join (names ++ lines ++ sizes) ++ "</svg>\n"

end SizeSweep.Chart
