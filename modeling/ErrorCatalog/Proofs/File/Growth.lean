import ErrorCatalog.Proofs.File.Place

/-!
# `ErrorCatalog/Proofs/File/Growth.lean` — what the operations leave of the files

Two things are said about a tree before and after. It *keeps* its nodes (`FileTree.Keeps`): nothing is
removed, and a directory stays a directory. It is *extended* (`FileTree.Extends`): beyond that, all that
is different is new directories, at certain locations. Making directories extends a tree whether it
succeeds or not (`extends_ensureChain`), and writing a file is one assignment to one location
(`write_eq_ok_iff`). Both keep the tree.

What an operation needs is not lost in a tree that is kept: a path that could be followed still can, a
directory is still there, a file can still be written to. So what was done once can be done again, and
then it makes no new directories. What is *read* may change, but only by writing to the same location
(`read_of_keeps`).
-/

set_option autoImplicit false

namespace ErrorCatalog

inductive NodeKind where
  | directory
  | file
  | null
deriving DecidableEq

def Node.kind : Node → NodeKind
  | .directory => .directory
  | .file _ => .file
  | .null => .null

/-- What is read from a node; `none` for a directory. -/
def Node.contents? : Node → Option ByteArray
  | .directory => none
  | .file contents => some contents
  | .null => some .empty

/-- What is at a location once something was written to it. The null device stays what it is. -/
def Node.overwritten (contents : ByteArray) : Option Node → Node
  | some .null => .null
  | _ => .file contents

theorem Node.kind_overwritten_ne_directory (contents : ByteArray) (before : Option Node) :
    (Node.overwritten contents before).kind ≠ .directory := by
  unfold overwritten
  split
  · exact NodeKind.noConfusion
  · exact NodeKind.noConfusion

theorem Node.overwritten_overwritten (earlier later : ByteArray) (before : Option Node) :
    Node.overwritten later (some (Node.overwritten earlier before)) = .overwritten later before := by
  cases before with
  | none => rfl
  | some n => cases n <;> rfl

namespace FileTree

variable {t t' u : FileTree} {l m : Location} {p : Path}

/-! ## 1. Nodes -/

def kind? (t : FileTree) (l : Location) : Option NodeKind := (t.node? l).map Node.kind

theorem kind?_eq_directory_iff : t.kind? l = some .directory ↔ t.node? l = some .directory := by
  unfold kind?
  cases t.node? l with
  | none => simp
  | some n => cases n <;> simp [Node.kind]

theorem node?_nil (t : FileTree) : t.node? [] = some .directory := rfl

theorem node?_put (h : l ≠ []) (n : Node) :
    (t.put l n).node? m = if m = l then some n else t.node? m := by
  unfold put node?
  by_cases hm : m = []
  · subst hm
    rw [if_pos rfl, if_pos rfl, if_neg (Ne.symm h)]
  · rw [if_neg hm, if_neg hm, lookup_assignPair]

/-- The tree after something was written to a location. -/
def overwrite (t : FileTree) (l : Location) (contents : ByteArray) : FileTree :=
  t.put l (.overwritten contents (t.node? l))

theorem node?_overwrite (h : l ≠ []) (contents : ByteArray) :
    (t.overwrite l contents).node? m =
      if m = l then some (.overwritten contents (t.node? l)) else t.node? m :=
  node?_put h _

theorem put_of_node? (h : l ≠ []) {n : Node} (hnode : t.node? l = some n) : t.put l n = t := by
  rw [node?, if_neg h] at hnode
  rw [put, assignPair_of_lookup hnode]

theorem overwrite_overwrite (h : l ≠ []) (earlier later : ByteArray) :
    (t.overwrite l earlier).overwrite l later = t.overwrite l later := by
  unfold overwrite
  rw [node?_put h, if_pos rfl, Node.overwritten_overwritten]
  unfold put
  rw [assignPair_assignPair]

/-- Two locations can be overwritten in either order if there is something at one of them. -/
theorem overwrite_comm (hl : l ≠ []) (hm : m ≠ []) (hne : l ≠ m) (htaken : t.node? l ≠ none)
    (contents other : ByteArray) :
    (t.overwrite l contents).overwrite m other = (t.overwrite m other).overwrite l contents := by
  have hkey : l ∈ t.nodes.map (·.1) := by
    rw [node?, if_neg hl] at htaken
    refine Decidable.byContradiction fun hnot => htaken (List.lookup_eq_none_iff.mpr fun p hp => ?_)
    exact bne_iff_ne.mpr fun heq => hnot (List.mem_map.mpr ⟨p, hp, heq.symm⟩)
  unfold overwrite
  rw [node?_put hl, if_neg hne.symm, node?_put hm, if_neg hne]
  unfold put
  rw [assignPair_comm hne _ _ hkey]

/-! ## 2. Trees that are kept -/

/-- Whether all nodes of a tree are still there, each of the kind it was. -/
structure Keeps (t t' : FileTree) : Prop where
  home_eq : t'.home = t.home
  kind : ∀ {l : Location} {k : NodeKind}, t.kind? l = some k → t'.kind? l = some k

theorem Keeps.refl (t : FileTree) : t.Keeps t := ⟨rfl, id⟩

theorem Keeps.trans (h : t.Keeps t') (h' : t'.Keeps u) : t.Keeps u :=
  ⟨h'.home_eq.trans h.home_eq, fun hk => h'.kind (h.kind hk)⟩

theorem Keeps.directory (h : t.Keeps t') (hl : t.node? l = some .directory) :
    t'.node? l = some .directory :=
  kind?_eq_directory_iff.mp (h.kind (kind?_eq_directory_iff.mpr hl))

theorem Keeps.locate (h : t.Keeps t') {dest : Destination} (hp : t.locate p = .ok dest) :
    t'.locate p = .ok dest :=
  locate_mono (fun _ => h.directory) h.home_eq hp

theorem Keeps.resolve? (h : t.Keeps t') (hp : t.resolve? p = some l) : t'.resolve? p = some l := by
  unfold FileTree.resolve? at hp ⊢
  cases hlocate : t.locate p with
  | error e =>
    rw [hlocate] at hp
    cases hp
  | ok dest =>
    rw [hlocate] at hp
    rw [h.locate hlocate]
    exact hp

theorem Keeps.isDirectory (h : t.Keeps t') (hp : t.isDirectory p = true) :
    t'.isDirectory p = true := by
  unfold FileTree.isDirectory at hp ⊢
  cases hlocate : t.locate p with
  | error e =>
    rw [hlocate] at hp
    cases hp
  | ok dest =>
    rw [hlocate] at hp
    rw [h.locate hlocate]
    cases dest with
    | existing directory => rfl
    | entry directory name slashAfter =>
      dsimp only at hp ⊢
      unfold holdsDirectory at hp ⊢
      split at hp
      · rename_i hnode
        rw [h.directory hnode]
      · cases hp

theorem keeps_overwrite (h : l ≠ []) (hnode : t.node? l ≠ some .directory) (contents : ByteArray) :
    t.Keeps (t.overwrite l contents) := by
  refine ⟨rfl, fun {m k} hk => ?_⟩
  unfold kind? at hk ⊢
  rw [node?_overwrite h]
  split
  · rename_i hm
    subst hm
    cases hn : t.node? m with
    | none =>
      rw [hn] at hk
      cases hk
    | some n =>
      rw [hn] at hk hnode
      cases n with
      | directory => exact absurd rfl hnode
      | file contents => exact hk
      | null => exact hk
  · exact hk

/-! ## 3. Trees that are extended -/

/-- Whether a tree has changed by new directories only, which are at certain locations. -/
structure Extends (t : FileTree) (made : Location → Prop) (t' : FileTree) : Prop where
  home_eq : t'.home = t.home
  node : ∀ l, t'.node? l = t.node? l ∨ t.node? l = none ∧ t'.node? l = some .directory ∧ made l

variable {made more : Location → Prop}

theorem Extends.refl (t : FileTree) (made : Location → Prop) : t.Extends made t :=
  ⟨rfl, fun _ => Or.inl rfl⟩

theorem Extends.mono (h : t.Extends made t') (himp : ∀ l, made l → more l) : t.Extends more t' :=
  ⟨h.home_eq, fun l => (h.node l).imp_right <| And.imp_right <| And.imp_right <| himp l⟩

theorem Extends.trans (h : t.Extends made t') (h' : t'.Extends made u) : t.Extends made u := by
  refine ⟨h'.home_eq.trans h.home_eq, fun l => ?_⟩
  rcases h'.node l with heq | ⟨hnone, hdirectory, hmade⟩
  · rw [heq]
    exact h.node l
  · -- What is new in `u` was not there before, so it cannot be new in `t'` as well.
    rcases h.node l with heq | ⟨-, hother, -⟩
    · exact Or.inr ⟨heq ▸ hnone, hdirectory, hmade⟩
    · rw [hnone] at hother
      cases hother

theorem Extends.keeps (h : t.Extends made t') : t.Keeps t' := by
  refine ⟨h.home_eq, fun {l k} hk => ?_⟩
  unfold kind? at hk ⊢
  rcases h.node l with heq | ⟨hnone, -, -⟩
  · rw [heq]
    exact hk
  · rw [hnone] at hk
    cases hk

theorem extends_put_directory (h : t.node? l = none) :
    t.Extends (· = l) (t.put l .directory) := by
  have hne : l ≠ [] := by
    rintro rfl
    rw [node?_nil] at h
    cases h
  refine ⟨rfl, fun m => ?_⟩
  rw [node?_put hne]
  split
  · rename_i hm
    exact Or.inr ⟨hm ▸ h, rfl, hm⟩
  · exact Or.inl rfl

/-! ## 4. Making directories -/

theorem makeDirectory_eq_ok_iff :
    t.makeDirectory p = .ok t' ↔ ∃ directory name slashAfter,
      t.locate p = .ok (.entry directory name slashAfter) ∧ name.byteSize ≤ maxNameBytes ∧
        t.node? (directory ++ [name]) = none ∧ t' = t.put (directory ++ [name]) .directory := by
  unfold makeDirectory
  cases t.locate p with
  | error e => simp
  | ok dest =>
    cases dest with
    | existing directory => simp
    | entry directory name slashAfter =>
      by_cases hlong : maxNameBytes < name.byteSize
      · simp [hlong, Nat.not_le_of_lt hlong]
      · cases hnode : t.node? (directory ++ [name]) with
        | some n => simp [hlong, hnode]
        | none =>
          simp only [hlong, hnode, if_false, Except.ok.injEq, Destination.entry.injEq]
          constructor
          · rintro rfl
            exact ⟨_, _, _, ⟨rfl, rfl, rfl⟩, Nat.le_of_not_lt hlong, hnode, rfl⟩
          · rintro ⟨_, _, _, ⟨rfl, rfl, rfl⟩, -, -, rfl⟩
            rfl

theorem extends_ensureDirectory (h : t.ensureDirectory p = .ok t') :
    t.Extends (· = p.locationFrom t.home) t' ∧ t'.isDirectory p = true := by
  unfold ensureDirectory at h
  cases hmake : t.makeDirectory p with
  | ok next =>
    rw [hmake] at h
    obtain rfl := Except.ok.inj h
    obtain ⟨directory, name, slashAfter, hlocate, -, hnone, rfl⟩ := makeDirectory_eq_ok_iff.mp hmake
    have hextends := extends_put_directory hnone
    refine ⟨location_of_locate hlocate ▸ hextends, ?_⟩
    unfold isDirectory
    rw [hextends.keeps.locate hlocate]
    dsimp only
    rw [holdsDirectory, node?_put (by simp), if_pos rfl]
  | error e =>
    rw [hmake] at h
    dsimp only at h
    split at h
    · rename_i hdirectory
      obtain rfl := Except.ok.inj h
      exact ⟨.refl t _, hdirectory⟩
    · cases h

theorem ensureDirectory_of_isDirectory (h : t.isDirectory p = true) :
    t.ensureDirectory p = .ok t := by
  unfold ensureDirectory
  cases hmake : t.makeDirectory p with
  | error e =>
    dsimp only
    rw [if_pos h]
  | ok next =>
    -- It cannot have been made, since it was there.
    obtain ⟨directory, name, slashAfter, hlocate, -, hnone, -⟩ := makeDirectory_eq_ok_iff.mp hmake
    unfold isDirectory at h
    rw [hlocate] at h
    dsimp only at h
    rw [holdsDirectory, hnone] at h
    cases h

/-- Whether some of the paths leads to a location. -/
def LeadTo (paths : List Path) (home : Location) (l : Location) : Prop :=
  ∃ p ∈ paths, p.locationFrom home = l

/-- **Making directories** makes directories and does nothing else, also if it fails on the way. -/
theorem extends_ensureChain (paths : List Path) :
    t.Extends (LeadTo paths t.home) (t.ensureChain paths).2 := by
  induction paths generalizing t with
  | nil => exact .refl t _
  | cons p above ih =>
    have hfirst : ∀ l, l = p.locationFrom t.home → LeadTo (p :: above) t.home l := fun l h =>
      ⟨p, List.mem_cons_self, h.symm⟩
    have habove : t.Extends (LeadTo (p :: above) t.home) (t.ensureChain above).2 :=
      ih.mono fun l ⟨q, hq, hl⟩ => ⟨q, List.mem_cons_of_mem _ hq, hl⟩
    rw [ensureChain]
    split
    · rename_i next hnext
      exact (extends_ensureDirectory hnext).1.mono hfirst
    · -- The directory above was missing. It is made before the second attempt.
      split
      · rename_i e next hnext
        rw [hnext] at habove
        exact habove
      · rename_i next hnext
        rw [hnext] at habove
        split
        · rename_i last hlast
          refine habove.trans ((extends_ensureDirectory hlast).1.mono fun l hl => ?_)
          rw [habove.home_eq] at hl
          exact hfirst l hl
        · exact habove
    · exact .refl t _

theorem isDirectory_of_ensureChain {above : List Path}
    (h : (t.ensureChain (p :: above)).1 = .ok ()) :
    (t.ensureChain (p :: above)).2.isDirectory p = true := by
  rw [ensureChain] at h ⊢
  split at h
  · rename_i next hnext
    exact (extends_ensureDirectory hnext).2
  · split at h
    · cases h
    · split at h
      · rename_i last hlast
        exact (extends_ensureDirectory hlast).2
      · cases h
  · cases h

theorem ensureChain_of_isDirectory (h : t.isDirectory p = true) (above : List Path) :
    t.ensureChain (p :: above) = (.ok (), t) := by
  rw [ensureChain, ensureDirectory_of_isDirectory h]

/-- Directories that were made once are not made again. -/
theorem ensureChain_of_keeps {paths : List Path} (h : t.ensureChain paths = (.ok (), t'))
    (hkeeps : t'.Keeps u) : u.ensureChain paths = (.ok (), u) := by
  cases paths with
  | nil => rfl
  | cons p above =>
    have hdirectory : t'.isDirectory p = true := by
      have hok : (t.ensureChain (p :: above)).1 = .ok () := by rw [h]
      have hmade := isDirectory_of_ensureChain hok
      rwa [h] at hmade
    exact ensureChain_of_isDirectory (hkeeps.isDirectory hdirectory) above

/-! ## 5. Writing -/

/-- Whether a path leads to a location that can be written to. -/
def Accepts (t : FileTree) (p : Path) (l : Location) : Prop :=
  ∃ directory name, t.locate p = .ok (.entry directory name false) ∧
    name.byteSize ≤ maxNameBytes ∧ l = directory ++ [name] ∧ t.node? l ≠ some .directory

theorem Accepts.ne_nil (h : t.Accepts p l) : l ≠ [] := by
  obtain ⟨directory, name, -, -, rfl, -⟩ := h
  simp

theorem Accepts.resolve? (h : t.Accepts p l) : t.resolve? p = some l := by
  obtain ⟨directory, name, hlocate, -, rfl, -⟩ := h
  exact resolve?_eq_some_of_locate hlocate

theorem Accepts.keeps_overwrite (h : t.Accepts p l) (contents : ByteArray) :
    t.Keeps (t.overwrite l contents) := by
  have hne := h.ne_nil
  obtain ⟨directory, name, -, -, -, hnode⟩ := h
  exact FileTree.keeps_overwrite hne hnode contents

/-- A path stays good to be written to as long as no directory takes its place. -/
theorem Accepts.mono (h : t.Accepts p l) (hkeeps : t.Keeps t')
    (hnode : t'.node? l ≠ some .directory) : t'.Accepts p l := by
  obtain ⟨directory, name, hlocate, hshort, hl, -⟩ := h
  exact ⟨directory, name, hkeeps.locate hlocate, hshort, hl, hnode⟩

theorem accepts_iff {directory : Location} {name : Text} {slashAfter : Bool}
    (h : t.locate p = .ok (.entry directory name slashAfter)) :
    t.Accepts p l ↔ slashAfter = false ∧ name.byteSize ≤ maxNameBytes ∧ l = directory ++ [name] ∧
      t.node? l ≠ some .directory := by
  unfold Accepts
  rw [h]
  constructor
  · rintro ⟨_, _, heq, hshort, rfl, hnode⟩
    obtain ⟨rfl, rfl, rfl⟩ := Destination.entry.inj (Except.ok.inj heq)
    exact ⟨rfl, hshort, rfl, hnode⟩
  · rintro ⟨rfl, hshort, rfl, hnode⟩
    exact ⟨_, _, rfl, hshort, rfl, hnode⟩

/-- **Writing** puts the contents where the path leads, and does nothing else. -/
theorem write_eq_ok_iff {contents : ByteArray} :
    t.write p contents = .ok t' ↔ ∃ l, t.Accepts p l ∧ t' = t.overwrite l contents := by
  unfold write modify
  cases hlocate : t.locate p with
  | error e => simp [Accepts, hlocate]
  | ok dest =>
    cases dest with
    | existing directory => simp [Accepts, hlocate]
    | entry directory name slashAfter =>
      simp only [accepts_iff hlocate, and_assoc, exists_and_left, exists_eq_left]
      cases slashAfter with
      | true => simp
      | false =>
        by_cases hlong : maxNameBytes < name.byteSize
        · simp [hlong, Nat.not_le_of_lt hlong]
        · have hshort := Nat.le_of_not_lt hlong
          cases hnode : t.node? (directory ++ [name]) with
          | none => simp [hlong, hshort, overwrite, hnode, Node.overwritten, eq_comm]
          | some n =>
            cases n with
            | directory => simp [hlong]
            | file before => simp [hlong, hshort, overwrite, hnode, Node.overwritten, eq_comm]
            | null =>
              -- The device is left alone, which is the same as putting it where it is.
              have hput : t.put (directory ++ [name]) .null = t := put_of_node? (by simp) hnode
              simp [hlong, hshort, overwrite, hnode, Node.overwritten, hput, eq_comm]

/-! ## 6. Reading -/

/-- **Reading** gives what is where the path leads. -/
theorem read_eq_ok_iff {bytes : ByteArray} :
    t.read p = .ok bytes ↔ ∃ directory name,
      t.locate p = .ok (.entry directory name false) ∧ name.byteSize ≤ maxNameBytes ∧
        (t.node? (directory ++ [name])).bind Node.contents? = some bytes := by
  unfold read
  cases hlocate : t.locate p with
  | error e => simp
  | ok dest =>
    cases dest with
    | existing directory => simp
    | entry directory name slashAfter =>
      simp only [Except.ok.injEq, Destination.entry.injEq, and_assoc, exists_and_left,
        exists_eq_left']
      by_cases hlong : maxNameBytes < name.byteSize
      · simp [hlong, Nat.not_le_of_lt hlong]
      · have hshort := Nat.le_of_not_lt hlong
        cases hnode : t.node? (directory ++ [name]) with
        | none => simp [hlong]
        | some n => cases n <;> cases slashAfter <;> simp [hlong, hshort, Node.contents?]

theorem node?_of_read {bytes : ByteArray} (h : t.read p = .ok bytes) :
    ∃ l n, t.resolve? p = some l ∧ t.node? l = some n := by
  obtain ⟨directory, name, hlocate, -, hbytes⟩ := read_eq_ok_iff.mp h
  obtain ⟨n, hnode, -⟩ := Option.bind_eq_some_iff.mp hbytes
  exact ⟨directory ++ [name], n, resolve?_eq_some_of_locate hlocate, hnode⟩

/-- What was read from a location can be read again, if it is still there. -/
theorem read_of_keeps (h : t.Keeps t') {bytes : ByteArray} (hread : t.read p = .ok bytes)
    (hnode : ∀ l, t.resolve? p = some l → t'.node? l = t.node? l) : t'.read p = .ok bytes := by
  obtain ⟨directory, name, hlocate, hshort, hbytes⟩ := read_eq_ok_iff.mp hread
  have hsame := hnode (directory ++ [name]) (resolve?_eq_some_of_locate hlocate)
  rw [← hsame] at hbytes
  exact read_eq_ok_iff.mpr ⟨directory, name, h.locate hlocate, hshort, hbytes⟩

end FileTree

end ErrorCatalog
