import ErrorCatalog.Proofs.Run.Emission

/-!
# `ErrorCatalog/Proofs/Run/Written.lean` — what is there after deliveries

Each artifact goes to one location, `Artifact.destination`, which does not depend on the files. So what
deliveries leave at a location is decided by the artifacts that go there. If none does, the node is what it
was, or a directory where there was nothing (`Delivers.node?_of_forall_ne`). If some do, the last of them is
there (`Delivers.node?_of_last`), with the null device as the one exception. Artifacts may well share a
location, and one may go through directories that were made for another; neither needs a case of its own.

What has been delivered stays: its directories are there and its file is (`Delivers.holds`), whatever is
delivered after it.
-/

set_option autoImplicit false

namespace ErrorCatalog

/-- The location an artifact goes to below a root, seen from a working directory. -/
def Artifact.destination (root : Path) (home : Location) (a : Artifact) : Location :=
  (a.pathBelow root).locationFrom home

variable {root : Path} {a : Artifact} {t t' u : FileTree} {artifacts : List Artifact} {l : Location}

/-! ## 1. Locations that hold what is written -/

theorem FileTree.Accepts.eq_locationFrom {p : Path} (h : t.Accepts p l) :
    l = p.locationFrom t.home :=
  (locationFrom_of_resolve? h.resolve?).symm

/-- What is written to a location depends on what was there only if it was the null device, and new
directories are not that. -/
theorem FileTree.Extends.overwritten_eq {made : Location → Prop} (h : t.Extends made t')
    (l : Location) (contents : ByteArray) :
    Node.overwritten contents (t'.node? l) = Node.overwritten contents (t.node? l) := by
  rcases h.node l with heq | ⟨hnone, hdirectory, -⟩
  · rw [heq]
  · rw [hnone, hdirectory]
    rfl

/-- Whether there is a file, or the null device, where a path leads, and the directories it needs. -/
structure FileTree.Holds (t : FileTree) (p : Path) (l : Location) : Prop where
  room : t.ensureChain p.room = (.ok (), t)
  accepts : t.Accepts p l
  taken : ∃ k, t.kind? l = some k ∧ k ≠ .directory

theorem FileTree.Holds.of_keeps {p : Path} (h : t.Holds p l) (hkeeps : t.Keeps u) :
    u.Holds p l := by
  obtain ⟨k, hk, hne⟩ := h.taken
  have hkind : u.kind? l = some k := hkeeps.kind hk
  refine ⟨ensureChain_of_keeps h.room hkeeps, h.accepts.mono hkeeps ?_, k, hkind, hne⟩
  rw [ne_eq, ← kind?_eq_directory_iff, hkind]
  exact fun heq => hne (Option.some.inj heq)

theorem FileTree.Holds.node?_ne_none {p : Path} (h : t.Holds p l) : t.node? l ≠ none := by
  obtain ⟨k, hk, -⟩ := h.taken
  intro hnone
  rw [kind?, hnone] at hk
  cases hk

/-! ## 2. One delivery -/

/-- A delivery that succeeds, as a change of the files: room is made, and then one location is
overwritten. -/
theorem FileTree.of_emit_at_destination {d : Delivered} (h : t.emit root a = (.ok d, u)) :
    ∃ made, t.Extends (LeadTo (a.pathBelow root).room t.home) made ∧
      t.ensureChain (a.pathBelow root).room = (.ok (), made) ∧
      made.Accepts (a.pathBelow root) (a.destination root t.home) ∧
      u = made.overwrite (a.destination root t.home) (Text.encode a.contents) := by
  obtain ⟨-, made, l, hextends, hroom, haccepts, hu⟩ := of_emit_ok h
  have hl : l = a.destination root t.home := by
    rw [haccepts.eq_locationFrom, hextends.home_eq, Artifact.destination]
  subst hl
  exact ⟨made, hextends, hroom, haccepts, hu⟩

theorem FileTree.keeps_of_emit {d : Delivered} (h : t.emit root a = (.ok d, u)) : t.Keeps u := by
  obtain ⟨made, hextends, -, haccepts, rfl⟩ := of_emit_at_destination h
  exact hextends.keeps.trans (haccepts.keeps_overwrite _)

theorem FileTree.node?_of_emit {d : Delivered} (h : t.emit root a = (.ok d, u)) :
    u.node? (a.destination root t.home) =
      some (.overwritten (Text.encode a.contents) (t.node? (a.destination root t.home))) := by
  obtain ⟨made, hextends, -, haccepts, rfl⟩ := of_emit_at_destination h
  rw [node?_overwrite haccepts.ne_nil, if_pos rfl, hextends.overwritten_eq]

/-- Elsewhere, a delivery only makes directories. -/
theorem FileTree.node?_of_emit_of_ne {d : Delivered} (h : t.emit root a = (.ok d, u))
    (hne : a.destination root t.home ≠ l) :
    u.node? l = t.node? l ∨ t.node? l = none ∧ u.node? l = some .directory := by
  obtain ⟨made, hextends, -, haccepts, rfl⟩ := of_emit_at_destination h
  rw [node?_overwrite haccepts.ne_nil, if_neg hne.symm]
  exact (hextends.node l).imp_right fun ⟨hnone, hdirectory, _⟩ => ⟨hnone, hdirectory⟩

theorem FileTree.overwritten_of_emit {d : Delivered} (h : t.emit root a = (.ok d, u))
    (l : Location) (contents : ByteArray) :
    Node.overwritten contents (u.node? l) = Node.overwritten contents (t.node? l) := by
  by_cases hl : a.destination root t.home = l
  · subst hl
    rw [node?_of_emit h, Node.overwritten_overwritten]
  · rcases node?_of_emit_of_ne h hl with heq | ⟨hnone, hdirectory⟩
    · rw [heq]
    · rw [hnone, hdirectory]
      rfl

theorem FileTree.holds_of_emit {d : Delivered} (h : t.emit root a = (.ok d, u)) :
    u.Holds (a.pathBelow root) (a.destination root t.home) := by
  have hwritten := node?_of_emit h
  have hne := Node.kind_overwritten_ne_directory (Text.encode a.contents)
    (t.node? (a.destination root t.home))
  obtain ⟨made, -, hroom, haccepts, rfl⟩ := of_emit_at_destination h
  have hkeeps := haccepts.keeps_overwrite (Text.encode a.contents)
  refine ⟨ensureChain_of_keeps hroom hkeeps, haccepts.mono hkeeps ?_, _, ?_, hne⟩
  · rw [hwritten]
    exact fun heq => hne (congrArg Node.kind (Option.some.inj heq))
  · rw [kind?, hwritten]
    rfl

/-! ## 3. Many deliveries -/

namespace Delivers

theorem keeps (h : Delivers root t artifacts u) : t.Keeps u := by
  induction h with
  | nil t => exact .refl t
  | cons first others ih => exact (FileTree.keeps_of_emit first).trans ih

theorem overwritten_eq (h : Delivers root t artifacts u) (l : Location) (contents : ByteArray) :
    Node.overwritten contents (u.node? l) = Node.overwritten contents (t.node? l) := by
  induction h with
  | nil t => rfl
  | cons first others ih => rw [ih, FileTree.overwritten_of_emit first]

/-- Where no artifact goes, everything is as it was, but for new directories. -/
theorem node?_of_forall_ne (h : Delivers root t artifacts u)
    (hne : ∀ a ∈ artifacts, a.destination root t.home ≠ l) :
    u.node? l = t.node? l ∨ t.node? l = none ∧ u.node? l = some .directory := by
  induction h with
  | nil t => exact Or.inl rfl
  | @cons t next last a rest d first others ih =>
    have hhome : next.home = t.home := (FileTree.keeps_of_emit first).home_eq
    have hfirst := FileTree.node?_of_emit_of_ne first (hne a List.mem_cons_self)
    have hothers := ih fun b hb => by
      rw [hhome]
      exact hne b (List.mem_cons_of_mem _ hb)
    rcases hothers with heq | ⟨hnone, hdirectory⟩
    · rw [heq]
      exact hfirst
    · rcases hfirst with heq | ⟨-, hother⟩
      · exact Or.inr ⟨heq ▸ hnone, hdirectory⟩
      · rw [hnone] at hother
        cases hother

/-- **Where artifacts go, the last of them is.** -/
theorem node?_of_last {before later : List Artifact}
    (h : Delivers root t (before ++ a :: later) u) (hl : a.destination root t.home = l)
    (hlast : ∀ b ∈ later, b.destination root t.home ≠ l) :
    u.node? l = some (.overwritten (Text.encode a.contents) (t.node? l)) := by
  subst hl
  -- The artifact is delivered on `t'`, which differs from `t` by the artifacts before it; those after it
  -- go elsewhere.
  obtain ⟨t', hbefore, hrest⟩ := delivers_append.mp h
  have hhome : t'.home = t.home := hbefore.keeps.home_eq
  cases hrest with
  | @cons _ next _ _ _ d first others =>
    have hwritten := FileTree.node?_of_emit first
    rw [hhome, hbefore.overwritten_eq] at hwritten
    have hnext : next.home = t.home := (FileTree.keeps_of_emit first).home_eq.trans hhome
    have hothers := others.node?_of_forall_ne (l := a.destination root t.home) fun b hb => by
      rw [hnext]
      exact hlast b hb
    rcases hothers with heq | ⟨hnone, -⟩
    · rw [heq, hwritten]
    · rw [hwritten] at hnone
      cases hnone

theorem holds (h : Delivers root t artifacts u) (ha : a ∈ artifacts) :
    u.Holds (a.pathBelow root) (a.destination root t.home) := by
  induction h with
  | nil t => exact absurd ha List.not_mem_nil
  | cons first others ih =>
    rcases List.mem_cons.mp ha with rfl | hrest
    · exact (FileTree.holds_of_emit first).of_keeps others.keeps
    · have hothers := ih hrest
      rwa [(FileTree.keeps_of_emit first).home_eq] at hothers

end Delivers

end ErrorCatalog
