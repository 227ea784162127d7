import Mathlib.Data.String.Basic

/-!
# Paths as texts

A path is a text whose components stand between slashes; empty components and
`.` stand for nothing.  Joining a plain name makes a direct child.
-/

namespace Library

/-- A path that starts at the root replaces the one it is joined to. -/
def joinPath (path name : String) : String :=
  if name.toList.head? = some '/' then name
  else if path.toList = [] ∨ path.toList.getLast? = some '/' then path ++ name
  else path ++ "/" ++ name

def isRooted (path : String) : Bool := path.toList.head? = some '/'

def namesIn (path : List Char) : List String :=
  ((path.splitOnP (· = '/')).filter fun name => name ≠ [] ∧ name ≠ ['.']).map .ofList

def pathNames (path : String) : List String := namesIn path.toList

/-- A name of a file or a directory, but not of this or the parent directory. -/
structure PlainName (name : String) : Prop where
  nonempty : name.toList ≠ []
  no_slash : '/' ∉ name.toList
  not_this : name.toList ≠ ['.']
  not_parent : name.toList ≠ ['.', '.']

/-- One path is a direct child of another. -/
structure ChildOf (path child name : String) : Prop where
  rooted : isRooted child = isRooted path
  names : pathNames child = pathNames path ++ [name]

theorem namesIn_slash (before after : List Char) :
    namesIn (before ++ '/' :: after) = namesIn before ++ namesIn after := by
  unfold namesIn
  rw [List.splitOnP_append_cons before after (by simp), List.filter_append, List.map_append]

theorem namesIn_nil : namesIn [] = [] := by simp [namesIn]

namespace PlainName

variable {name : String}

theorem names (plain : PlainName name) : namesIn name.toList = [name] := by
  have whole : name.toList.splitOnP (fun c => decide (c = '/')) = [name.toList] := by
    apply List.splitOnP_eq_singleton
    intro c member
    have other : c ≠ '/' := by
      intro same
      rw [same] at member
      exact plain.no_slash member
    simpa using other
  have kept : [name.toList].filter (fun name => name ≠ [] ∧ name ≠ ['.']) = [name.toList] := by
    simp [plain.nonempty, plain.not_this]
  unfold namesIn
  rw [whole, kept]
  simp

theorem relative (plain : PlainName name) : name.toList.head? ≠ some '/' := by
  intro rooted
  exact plain.no_slash (List.mem_of_mem_head? rooted)

/-- Joining a plain name goes one level down. -/
theorem childOf (plain : PlainName name) (path : String) :
    ChildOf path (joinPath path name) name := by
  unfold joinPath
  rw [if_neg plain.relative]
  split
  · rename_i ends
    rcases ends with empty | slash
    · constructor
      · simp [isRooted, empty, plain.relative]
      · rw [pathNames, pathNames, String.toList_append, empty, namesIn_nil, List.nil_append,
          plain.names, List.nil_append]
    · obtain ⟨before, ended⟩ := List.getLast?_eq_some_iff.mp slash
      constructor
      · unfold isRooted
        rw [String.toList_append, ended]
        cases before <;> simp
      · rw [pathNames, pathNames, String.toList_append, ended, List.append_assoc,
          List.singleton_append, namesIn_slash, namesIn_slash, namesIn_nil, List.append_nil,
          plain.names]
  · rename_i inner
    have written : (path ++ "/" ++ name).toList = path.toList ++ '/' :: name.toList := by
      simp [String.toList_append]
    constructor
    · unfold isRooted
      rw [written]
      cases chars : path.toList with
      | nil => exact absurd (Or.inl chars) inner
      | cons c rest => rfl
    · rw [pathNames, pathNames, written, namesIn_slash, plain.names]

end PlainName

/-- Different names make different paths. -/
theorem ChildOf.name_eq {path one two first second : String} (left : ChildOf path one first)
    (right : ChildOf path two second) (same : one = two) : first = second := by
  have names := left.names.symm.trans ((congrArg pathNames same).trans right.names)
  exact List.singleton_inj.mp (List.append_cancel_left names)

end Library
