import Mathlib.Tactic.Common
import SizeSweep.Files

/-!
Paths and trees.  A path ends in its last name, and the names before it lead to the directory that the
last one stands in.  Writing a file changes what stands at one place, where no directory is, and making
directories changes places where nothing is, so what a path led through before it leads through after.
-/

namespace SizeSweep

/-! ### Names of a path -/

namespace Text

variable {mark : Char} {cs : List Char}

lemma pieces_ne_nil (mark : Char) (cs : List Char) : pieces mark cs ≠ [] := by
  rcases cs with _ | ⟨c, cs⟩
  · simp [pieces]
  · rw [pieces]
    split_ifs
    · simp
    · split <;> simp

lemma pieces_of_not_mem (h : mark ∉ cs) : pieces mark cs = [cs] := by
  induction cs with
  | nil => rfl
  | cons c cs ih =>
    obtain ⟨hc, hcs⟩ := not_or.1 (mt List.mem_cons.2 h)
    rw [pieces, if_neg (Ne.symm hc), ih hcs]

lemma pieces_append (mark : Char) (cs more : List Char) :
    pieces mark (cs ++ mark :: more) = pieces mark cs ++ pieces mark more := by
  induction cs with
  | nil => simp [pieces]
  | cons c cs ih =>
    rw [List.cons_append, pieces, pieces, ih]
    split_ifs
    · rfl
    · obtain ⟨piece, rest, hpieces⟩ := List.exists_cons_of_ne_nil (pieces_ne_nil mark cs)
      rw [hpieces]
      rfl

end Text

namespace Files

/-- An ordinary name of a file: it stands for one place in its directory. -/
structure IsName (name : String) : Prop where
  ne_empty : name ≠ ""
  ne_here : name ≠ "."
  ne_above : name ≠ ".."
  slash : '/' ∉ name.toList

lemma names_eq_singleton {name : String} (h : '/' ∉ name.toList) : names name = [name] := by
  rw [names, Text.pieces_of_not_mem h]
  simp

lemma names_append_slash (path : String) {name : String} (h : '/' ∉ name.toList) :
    names (path ++ "/" ++ name) = names path ++ [name] := by
  have htext : (path ++ "/" ++ name).toList = path.toList ++ '/' :: name.toList := by
    simp [String.toList_append]
  rw [names, htext, Text.pieces_append, List.map_append, Text.pieces_of_not_mem h]
  simp [names]

lemma not_startsWith_slash {name : String} (h : '/' ∉ name.toList) :
    name.startsWith "/" = false := by
  rw [← Bool.not_eq_true, String.startsWith_string_iff]
  exact fun hhead => h (hhead.subset (by simp))

/-- A path below a directory has the names of the directory and one more.  A slash at the end of the
directory counts as an empty name, which the new one replaces. -/
lemma names_joinPath (directory : String) {name : String} (h : '/' ∉ name.toList) :
    ∃ around, names (joinPath directory name) = around ++ [name] ∧
      (names directory = around ∨ names directory = around ++ [""]) := by
  unfold joinPath
  rw [if_neg (by simp [not_startsWith_slash h])]
  split_ifs with hend
  · rcases Bool.or_eq_true_iff.1 hend with hempty | hslash
    · obtain rfl : directory = "" := String.isEmpty_iff.1 hempty
      refine ⟨[], ?_, Or.inr (by decide)⟩
      rw [String.empty_append]
      exact names_eq_singleton h
    · rw [String.endsWith_eq_endsWith_toSlice, String.Slice.endsWith_string_iff] at hslash
      obtain ⟨front, hfront⟩ := hslash
      obtain rfl : directory = String.ofList front ++ "/" := by
        apply String.toList_inj.1
        rw [String.toList_append, String.toList_ofList, hfront, String.copy_toSlice]
      refine ⟨names (String.ofList front), names_append_slash _ h, Or.inr ?_⟩
      have hlast : names (String.ofList front ++ "/" ++ "") = _ := names_append_slash _ (by simp)
      rwa [String.append_empty] at hlast
  · exact ⟨names directory, names_append_slash directory h, Or.inl rfl⟩

def origin (cwd : Location) (path : String) : Location := if path.startsWith "/" then [] else cwd

lemma origin_joinPath (cwd : Location) (directory : String) {name : String}
    (h : '/' ∉ name.toList) : origin cwd (joinPath directory name) = origin cwd directory := by
  have hstart : (joinPath directory name).startsWith "/" = directory.startsWith "/" := by
    unfold joinPath
    rw [if_neg (by simp [not_startsWith_slash h])]
    by_cases hempty : directory = ""
    · subst hempty
      simp [not_startsWith_slash h]
    · obtain ⟨c, cs, hcs⟩ : ∃ c cs, directory.toList = c :: cs :=
        List.exists_cons_of_ne_nil (by simpa using hempty)
      rw [Bool.eq_iff_iff, String.startsWith_string_iff, String.startsWith_string_iff]
      split_ifs <;> simp [String.toList_append, hcs]
  unfold origin
  rw [hstart]

/-! ### Walks -/

/-- One name of a path leads from a directory to another. -/
inductive Enters (files : Files) (base : Location) : String → Location → Prop
  | stay {name : String} (h : name = "" ∨ name = ".") : Enters files base name base
  | above : Enters files base ".." base.dropLast
  | into {name : String} (hempty : name ≠ "") (hhere : name ≠ ".") (habove : name ≠ "..")
      (hlength : name.utf8ByteSize ≤ maxNameLength)
      (h : files.lookup? (base ++ [name]) = some .directory) :
      Enters files base name (base ++ [name])

/-- Names lead from one directory to another. -/
def Reaches (files : Files) (base : Location) (names : List String) (dir : Location) : Prop :=
  files.walk base names = .ok ⟨dir, some .directory, true⟩

/-- A path leads to a directory; the empty path, to the one that paths are read from. -/
def LeadsTo (files : Files) (cwd : Location) (path : String) (dir : Location) : Prop :=
  files.Reaches (origin cwd path) (names path) dir

def KeepsDirectories (files after : Files) : Prop :=
  ∀ location, files.lookup? location = some .directory → after.lookup? location = some .directory

section Walk

variable {files after : Files} {cwd base dir : Location} {name path : String} {steps : List String}
  {target : Target}

lemma Enters.walk_cons {next : Location} (h : files.Enters base name next) (rest : List String) :
    files.walk base (name :: rest) = files.walk next rest := by
  cases h with
  | stay h => rw [walk, if_pos (by simpa using h)]
  | above => rw [walk, if_neg (by decide), if_pos rfl]
  | into hempty hhere habove hlength h =>
    rw [walk, if_neg (by simp [hempty, hhere]), if_neg habove, if_neg (by omega)]
    simp only [h]

/-- A walk that gives something goes on into a directory, or has come to its last name. -/
lemma walk_cons_cases {rest : List String} (h : files.walk base (name :: rest) = .ok target) :
    (∃ next, files.Enters base name next ∧ files.walk next rest = .ok target) ∨
    (∀ more ∈ rest, more = "") ∧ target.entry ≠ some .directory ∧
      target.location = base ++ [name] ∧ target.entry = files.lookup? (base ++ [name]) := by
  by_cases hstay : name = "" ∨ name = "."
  · rw [(Enters.stay hstay).walk_cons] at h
    exact Or.inl ⟨base, .stay hstay, h⟩
  by_cases habove : name = ".."
  · subst habove
    rw [Enters.above.walk_cons] at h
    exact Or.inl ⟨base.dropLast, .above, h⟩
  obtain ⟨hempty, hhere⟩ := not_or.1 hstay
  rw [walk, if_neg (by simpa using hstay), if_neg habove] at h
  by_cases hlength : maxNameLength < name.utf8ByteSize
  · rw [if_pos hlength] at h
    cases h
  rw [if_neg hlength] at h
  rcases hentry : files.lookup? (base ++ [name]) with _ | entry
  · simp only [hentry] at h
    split_ifs at h with hrest
    cases h
    exact Or.inr ⟨by simpa using hrest, by simp, rfl, rfl⟩
  by_cases hdirectory : entry = .directory
  · subst hdirectory
    simp only [hentry] at h
    exact Or.inl ⟨base ++ [name], .into hempty hhere habove (by omega) hentry, h⟩
  · simp only [hentry] at h
    split_ifs at h with hrest
    cases h
    exact Or.inr ⟨by simp [List.isEmpty_iff.1 hrest], by simpa using hdirectory, rfl, rfl⟩

lemma Enters.mono {next : Location} (hkept : files.KeepsDirectories after)
    (h : files.Enters base name next) : after.Enters base name next := by
  cases h with
  | stay h => exact .stay h
  | above => exact .above
  | into hempty hhere habove hlength h => exact .into hempty hhere habove hlength (hkept _ h)

lemma reaches_cons {rest : List String} :
    files.Reaches base (name :: rest) dir ↔
      ∃ next, files.Enters base name next ∧ files.Reaches next rest dir := by
  constructor
  · intro h
    rcases walk_cons_cases h with hnext | ⟨-, hentry, -⟩
    · exact hnext
    · exact absurd rfl hentry
  · rintro ⟨next, henters, h⟩
    exact (henters.walk_cons rest).trans h

lemma Reaches.mono (hkept : files.KeepsDirectories after) (h : files.Reaches base steps dir) :
    after.Reaches base steps dir := by
  induction steps generalizing base with
  | nil => exact h
  | cons name rest ih =>
    obtain ⟨next, henters, h⟩ := reaches_cons.1 h
    exact reaches_cons.2 ⟨next, henters.mono hkept, ih h⟩

lemma Reaches.walk_append (h : files.Reaches base steps dir) (more : List String) :
    files.walk base (steps ++ more) = files.walk dir more := by
  induction steps generalizing base with
  | nil =>
    cases h
    rfl
  | cons name rest ih =>
    obtain ⟨next, henters, h⟩ := reaches_cons.1 h
    rw [List.cons_append, henters.walk_cons, ih h]

lemma LeadsTo.mono (hkept : files.KeepsDirectories after) (h : files.LeadsTo cwd path dir) :
    after.LeadsTo cwd path dir :=
  Reaches.mono hkept h

lemma LeadsTo.unique {other : Location} (h : files.LeadsTo cwd path dir)
    (hother : files.LeadsTo cwd path other) : dir = other := by
  unfold LeadsTo Reaches at h hother
  rw [h] at hother
  cases hother
  rfl

/-- An ordinary name at the end of a path stands for a place in the directory before it. -/
lemma walk_append_name (hname : IsName name) (h : files.walk base (steps ++ [name]) = .ok target) :
    ∃ dir, files.Reaches base steps dir ∧ target.location = dir ++ [name] ∧
      target.entry = files.lookup? (dir ++ [name]) := by
  induction steps generalizing base with
  | nil =>
    refine ⟨base, rfl, ?_⟩
    rcases walk_cons_cases h with ⟨next, henters, h⟩ | ⟨-, -, hlast⟩
    · cases henters with
      | stay hstay => exact absurd hstay (not_or.2 ⟨hname.ne_empty, hname.ne_here⟩)
      | above => exact absurd rfl hname.ne_above
      | into _ _ _ _ hentry =>
        cases h
        exact ⟨rfl, hentry.symm⟩
    · exact hlast
  | cons step rest ih =>
    rcases walk_cons_cases h with ⟨next, henters, h⟩ | ⟨hempty, -⟩
    · obtain ⟨dir, hreaches, htarget⟩ := ih h
      exact ⟨dir, reaches_cons.2 ⟨next, henters, hreaches⟩, htarget⟩
    · exact absurd (hempty name (by simp)) hname.ne_empty

lemma walk_of_resolve (h : files.resolve cwd path = .ok target) :
    files.walk (origin cwd path) (names path) = .ok target := by
  unfold resolve at h
  split_ifs at h with _ _ _ hstart <;> simpa [origin, hstart] using h

lemma resolve_joinPath (hname : IsName name)
    (h : files.resolve cwd (joinPath path name) = .ok target) :
    ∃ dir, files.LeadsTo cwd path dir ∧ target.location = dir ++ [name] ∧
      target.entry = files.lookup? (dir ++ [name]) := by
  have hwalk := walk_of_resolve h
  obtain ⟨around, hjoined, hpath⟩ := names_joinPath path hname.slash
  rw [origin_joinPath cwd path hname.slash, hjoined] at hwalk
  obtain ⟨dir, hreaches, htarget⟩ := walk_append_name hname hwalk
  refine ⟨dir, ?_, htarget⟩
  unfold LeadsTo
  rcases hpath with hpath | hpath
  · rw [hpath]
    exact hreaches
  · rw [hpath]
    exact (hreaches.walk_append [""]).trans ((Enters.stay (Or.inl rfl)).walk_cons [])

end Walk

/-! ### Changes of a tree -/

/-- A tree to which directories were added where nothing was. -/
def GainsDirectories (files after : Files) : Prop :=
  ∀ location, after.lookup? location = files.lookup? location ∨
    files.lookup? location = none ∧ after.lookup? location = some .directory

/-- A tree in which what is written stays: no files but those of the system swallow it. -/
def Lasting (files : Files) : Prop :=
  ∀ location, files.lookup? location = some .void → systemAt? location = some .void

section Changes

variable {files middle after : Files} {cwd location : Location} {path : String} {entry : Entry}

lemma lookup?_put (files : Files) (location : Location) (entry : Entry) (other : Location) :
    (files.put location entry).lookup? other =
      if other = location then some entry else files.lookup? other := by
  have hrest : ∀ entries : List (Location × Entry), other ≠ location →
      (entries.filter (·.1 ≠ location)).lookup other = entries.lookup other := by
    intro entries hne
    induction entries with
    | nil => rfl
    | cons e rest ih =>
      by_cases he : e.1 = location
      · rw [List.filter_cons_of_neg (by simpa using he), ih, List.lookup_cons,
          beq_false_of_ne (he ▸ hne)]
      · rw [List.filter_cons_of_pos (by simpa using he), List.lookup_cons, List.lookup_cons, ih]
  unfold put lookup?
  rw [List.lookup_cons]
  split_ifs with h
  · rw [h, beq_self_eq_true]
    rfl
  · rw [beq_false_of_ne h, hrest _ h]

lemma eq_of_systemAt?_void (h : systemAt? location = some .void) : location = ["dev", "null"] := by
  unfold systemAt? at h
  split at h
  · cases h
  split at h
  · rfl
  · split_ifs at h
    cases h
  · split_ifs at h
    cases h
  · cases h

lemma lasting_of_entries (h : ∀ e ∈ files.entries, e.2 ≠ .void) : files.Lasting := by
  intro location hvoid
  unfold lookup? at hvoid
  rcases hlisted : files.entries.lookup location with _ | found
  · rwa [hlisted, Option.none_or] at hvoid
  · rw [hlisted, Option.some_or] at hvoid
    obtain rfl := Option.some.inj hvoid
    obtain ⟨front, rest, hentries, -⟩ := List.lookup_eq_some_iff.1 hlisted
    exact absurd rfl (h (location, .void) (by simp [hentries]))

lemma GainsDirectories.refl (files : Files) : files.GainsDirectories files := fun _ => Or.inl rfl

lemma GainsDirectories.trans (h : files.GainsDirectories middle)
    (hmore : middle.GainsDirectories after) : files.GainsDirectories after := by
  intro location
  rcases hmore location with hsame | ⟨hnone, hnew⟩
  · rw [hsame]
    exact h location
  · rcases h location with hold | ⟨-, hmade⟩
    · exact Or.inr ⟨hold ▸ hnone, hnew⟩
    · rw [hmade] at hnone
      cases hnone

lemma GainsDirectories.keepsDirectories (h : files.GainsDirectories after) :
    files.KeepsDirectories after := by
  intro location hdirectory
  rcases h location with hsame | ⟨-, hnew⟩
  · rw [hsame, hdirectory]
  · exact hnew

lemma GainsDirectories.lasting (h : files.GainsDirectories after) (hlasting : files.Lasting) :
    after.Lasting := by
  intro location hvoid
  rcases h location with hsame | ⟨-, hnew⟩
  · exact hlasting location (hsame ▸ hvoid)
  · rw [hnew] at hvoid
    cases hvoid

lemma gainsDirectories_put (h : files.lookup? location = none) :
    files.GainsDirectories (files.put location .directory) := by
  intro other
  rw [lookup?_put]
  split_ifs with hother
  · exact Or.inr ⟨hother ▸ h, rfl⟩
  · exact Or.inl rfl

/-! ### Making directories -/

lemma gainsDirectories_of_makeNamed {base : Location} {steps : List String}
    (h : files.makeNamed base steps = .ok after) : files.GainsDirectories after := by
  unfold makeNamed at h
  simp only [bind, Except.bind] at h
  split at h
  · cases h
  · split at h
    · cases h
    · cases h
    · split_ifs at h with _ _ hfree
      cases h
      exact gainsDirectories_put (by simpa using hfree)
    · cases h

lemma gainsDirectories_of_ensureDirectory (h : files.ensureDirectory cwd path = .ok after) :
    files.GainsDirectories after := by
  unfold ensureDirectory at h
  split at h
  · rename_i hmade
    unfold makeDirectory at hmade
    split_ifs at hmade
    all_goals
      cases h
      exact gainsDirectories_of_makeNamed hmade
  · split_ifs at h
    cases h
    exact .refl files

lemma gainsDirectories_ensureWithin (files : Files) (cwd : Location) (path : String)
    (around : List String) : files.GainsDirectories (files.ensureWithin cwd path around).2 := by
  induction around generalizing files path with
  | nil =>
    unfold ensureWithin
    split
    · rename_i hmade
      exact gainsDirectories_of_ensureDirectory hmade
    · exact .refl files
  | cons outer rest ih =>
    unfold ensureWithin
    have houter := ih files outer
    split
    · rename_i hmade
      exact gainsDirectories_of_ensureDirectory hmade
    · split
      · rename_i hwithin
        rw [hwithin] at houter
        exact houter
      · rename_i hwithin
        rw [hwithin] at houter
        split
        · rename_i hmade
          exact houter.trans (gainsDirectories_of_ensureDirectory hmade)
        · exact houter
    · exact .refl files

lemma gainsDirectories_createDirectories (files : Files) (cwd : Location) (path : String) :
    files.GainsDirectories (files.createDirectories cwd path).2 := by
  unfold createDirectories
  split_ifs
  · exact .refl files
  · exact gainsDirectories_ensureWithin files cwd path _

/-! ### Writing files -/

/-- Writing below a directory puts the file under its name there, unless it is swallowed. -/
lemma write_joinPath {name : String} {bytes : Bytes} (hname : IsName name)
    (h : files.write cwd (joinPath path name) bytes = .ok after) :
    ∃ dir, files.LeadsTo cwd path dir ∧
      (files.lookup? (dir ++ [name]) = some .void ∧ after = files ∨
        files.lookup? (dir ++ [name]) ≠ some .directory ∧
          after = files.put (dir ++ [name]) (.file bytes)) := by
  unfold write update at h
  rcases hresolve : files.resolve cwd (joinPath path name) with fault | target
  · rw [hresolve] at h
    cases h
  · obtain ⟨dir, hdir, hlocation, hentry⟩ := resolve_joinPath hname hresolve
    refine ⟨dir, hdir, ?_⟩
    simp only [hresolve, bind, Except.bind] at h
    rw [← hentry, ← hlocation]
    rcases hfound : target.entry with _ | _ | _ | _ | _
    all_goals simp only [hfound] at h
    · split_ifs at h
      cases h
      exact Or.inr ⟨by simp, rfl⟩
    · cases h
    · cases h
      exact Or.inr ⟨by simp, rfl⟩
    · cases h
      exact Or.inl ⟨rfl, rfl⟩
    · cases h

end Changes

end Files

end SizeSweep
