import ErrorCatalog.File.Tree
import ErrorCatalog.Proofs.File.Path

/-!
# `ErrorCatalog/Proofs/File/Place.lean` — where a path leads

A path is followed name by name, and each name but the last has to be a directory. Whether this works
depends on the files. Where it leads does not: without links every `..` undoes the name before it, so
the location can be read off the spelling and the working directory (`Path.locationFrom`), and a path
that can be followed leads to that location and to no other (`locationFrom_of_resolve?`).

So two paths are the same place on all trees with one working directory or on none, and a path keeps its
place while files change. What may change is whether the path can be followed. Directories are the only
thing that matters for it: a path that can be followed can still be followed when there are more of them
(`follow_mono`).
-/

set_option autoImplicit false

namespace ErrorCatalog

/-! ## 1. Reading a path -/

/-- Where one name leads from a directory. -/
def Location.enter (l : Location) (name : Text) : Location :=
  if name = ['.'] then l else if name = ['.', '.'] then l.dropLast else l ++ [name]

theorem IsName.enter {t : Text} (h : IsName t) (l : Location) : l.enter t = l ++ [t] := by
  rw [Location.enter, if_neg h.ne_here, if_neg h.ne_up]

namespace Path

/-- What stands between the slashes of a path. -/
def names (p : Path) : List Text := (Text.pieces isSlash p.spelling).filter (· ≠ [])

/-- Where a path leads from a working directory, if it can be followed. -/
def locationFrom (home : Location) (p : Path) : Location :=
  p.names.foldl Location.enter (if p.isAbsolute then [] else home)

theorem names_append_slash (s t : Text) : names ⟨s ++ '/' :: t⟩ = names ⟨s⟩ ++ names ⟨t⟩ := by
  rw [names, names, names, Text.pieces_append_cons (by decide : isSlash '/' = true),
    List.filter_append]

theorem names_of_isName {t : Text} (h : IsName t) : names ⟨t⟩ = [t] := by
  rw [names, h.pieces]
  simp [h.ne_nil]

theorem names_join_name (p : Path) {t : Text} (h : IsName t) : (p.join t).names = p.names ++ [t] := by
  obtain ⟨s⟩ := p
  have hempty : names ⟨[]⟩ = [] := rfl
  unfold join
  rw [if_neg (by rw [h.not_isAbsolute]; exact Bool.false_ne_true)]
  cases hlast : s.getLast? with
  | none =>
    obtain rfl := List.getLast?_eq_none_iff.mp hlast
    rw [hempty]
    exact names_of_isName h
  | some c =>
    obtain ⟨front, rfl⟩ := List.getLast?_eq_some_iff.mp hlast
    dsimp only
    split
    · rename_i hc
      obtain rfl : c = '/' := by simpa [isSlash] using hc
      rw [List.append_assoc, List.singleton_append, names_append_slash, names_append_slash, hempty,
        List.append_nil, names_of_isName h]
    · rw [names_append_slash, names_of_isName h]

theorem isAbsolute_join_name (p : Path) {t : Text} (h : IsName t) :
    (p.join t).isAbsolute = p.isAbsolute := by
  obtain ⟨s⟩ := p
  unfold join
  rw [if_neg (by rw [h.not_isAbsolute]; exact Bool.false_ne_true)]
  cases s with
  | nil => exact h.not_isAbsolute
  | cons c rest =>
    rw [List.getLast?_cons]
    dsimp only
    split
    · rfl
    · rfl

/-- Joining with a name leads to that name in the directory. -/
theorem locationFrom_join_name (home : Location) (p : Path) {t : Text} (h : IsName t) :
    (p.join t).locationFrom home = p.locationFrom home ++ [t] := by
  rw [locationFrom, names_join_name p h, isAbsolute_join_name p h, List.foldl_append,
    List.foldl_cons, List.foldl_nil, h.enter]
  rfl

end Path

/-! ## 2. Following a path -/

/-- The location that was led to. -/
def Destination.location : Destination → Location
  | .existing directory => directory
  | .entry directory name _ => directory ++ [name]

namespace FileTree

variable {t t' : FileTree} {slashAfter : Bool} {directory : Location} {names : List Text}

/-- What entering a directory takes: a name that is not too long, of a directory that is there. -/
theorem enter_eq_ok_iff {name : Text} {next : Location} :
    t.enter directory name = .ok next ↔ next = directory.enter name ∧
      (name = ['.'] ∨ name = ['.', '.'] ∨
        name.byteSize ≤ maxNameBytes ∧ t.node? (directory ++ [name]) = some .directory) := by
  unfold enter Location.enter
  by_cases hhere : name = ['.']
  · simp [hhere, eq_comm]
  · by_cases hup : name = ['.', '.']
    · simp [hup, eq_comm]
    · by_cases hlong : maxNameBytes < name.byteSize
      · simp [hhere, hup, hlong, Nat.not_le_of_lt hlong]
      · cases hnode : t.node? (directory ++ [name]) with
        | none => simp [hhere, hup, hlong]
        | some node =>
          cases node with
          | directory => simp [hhere, hup, hlong, Nat.le_of_not_lt hlong, eq_comm]
          | file contents => simp [hhere, hup, hlong]
          | null => simp [hhere, hup, hlong]

theorem enter_mono (h : ∀ l, t.node? l = some .directory → t'.node? l = some .directory)
    {name : Text} {next : Location} (henter : t.enter directory name = .ok next) :
    t'.enter directory name = .ok next := by
  rw [enter_eq_ok_iff] at henter ⊢
  exact henter.imp_right <| Or.imp_right <| Or.imp_right <| And.imp_right <| h _

theorem location_of_follow {dest : Destination}
    (h : t.follow slashAfter directory names = .ok dest) :
    dest.location = names.foldl Location.enter directory := by
  fun_induction follow t slashAfter directory names with
  | case1 directory =>
    obtain rfl := Except.ok.inj h
    rfl
  | case2 directory =>
    obtain rfl := Except.ok.inj h
    rfl
  | case3 directory =>
    obtain rfl := Except.ok.inj h
    rfl
  | case4 directory name hhere hup =>
    obtain rfl := Except.ok.inj h
    simp [Destination.location, Location.enter, hhere, hup]
  | case5 directory name rest hrest e he => cases h
  | case6 directory name rest hrest next hnext ih =>
    rw [ih h, List.foldl_cons, (enter_eq_ok_iff.mp hnext).1]

/-- With more directories, a path that could be followed still can. -/
theorem follow_mono (h : ∀ l, t.node? l = some .directory → t'.node? l = some .directory)
    {dest : Destination} (hfollow : t.follow slashAfter directory names = .ok dest) :
    t'.follow slashAfter directory names = .ok dest := by
  fun_induction follow t slashAfter directory names with
  | case1 directory => exact hfollow
  | case2 directory => exact hfollow
  | case3 directory => exact hfollow
  | case4 directory name hhere hup =>
    rw [follow, if_neg hhere, if_neg hup]
    exact hfollow
  | case5 directory name rest hrest e he => cases hfollow
  | case6 directory name rest hrest next hnext ih =>
    rw [follow, enter_mono h hnext]
    · exact ih hfollow
    · exact hrest

/-- Where a path leads, if it can be followed. -/
def resolve? (t : FileTree) (p : Path) : Option Location :=
  (t.locate p).toOption.map Destination.location

variable {p : Path} {dest : Destination}

theorem locate_eq_ok_iff :
    t.locate p = .ok dest ↔
      '\x00' ∉ p.spelling ∧ p.spelling ≠ [] ∧ p.spelling.byteSize < pathBytesLimit ∧
        t.follow (p.spelling.getLast?.any isSlash) (if p.isAbsolute then [] else t.home) p.names =
          .ok dest := by
  unfold locate
  by_cases hnul : '\x00' ∈ p.spelling
  · simp [hnul]
  · by_cases hempty : p.spelling = []
    · simp [hempty]
    · by_cases hlong : pathBytesLimit ≤ p.spelling.byteSize
      · simp [hnul, hempty, hlong, Nat.not_lt_of_le hlong]
      · simp [hnul, hempty, hlong, Nat.lt_of_not_le hlong, Path.names]

theorem location_of_locate (h : t.locate p = .ok dest) : dest.location = p.locationFrom t.home :=
  location_of_follow (locate_eq_ok_iff.mp h).2.2.2

theorem locate_mono (h : ∀ l, t.node? l = some .directory → t'.node? l = some .directory)
    (hhome : t'.home = t.home) (hlocate : t.locate p = .ok dest) : t'.locate p = .ok dest := by
  rw [locate_eq_ok_iff] at hlocate ⊢
  rw [hhome]
  exact hlocate.imp_right <| And.imp_right <| And.imp_right <| follow_mono h

theorem resolve?_eq_some_of_locate (h : t.locate p = .ok dest) :
    t.resolve? p = some dest.location := by
  rw [resolve?, h]
  rfl

/-- A path that can be followed leads where it says. -/
theorem locationFrom_of_resolve? {l : Location} (h : t.resolve? p = some l) :
    p.locationFrom t.home = l := by
  cases hlocate : t.locate p with
  | error e =>
    rw [resolve?, hlocate] at h
    cases h
  | ok dest =>
    rw [resolve?_eq_some_of_locate hlocate] at h
    rw [← location_of_locate hlocate]
    exact Option.some.inj h

end FileTree

end ErrorCatalog
