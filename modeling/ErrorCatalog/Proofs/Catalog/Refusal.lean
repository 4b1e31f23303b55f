import ErrorCatalog.Proofs.Catalog.Progress

/-!
# `ErrorCatalog/Proofs/Catalog/Refusal.lean` — when there is no catalog, and why

`Progress.lean` says that building stops with the first refusal. Here the first refusal is said by
position, without the loop: `BuildPolicy.RefusesAt` asks of one position whether its row is too wide
or repeats the name of any earlier row, and the outcome is read off the least position of which that
is true.

Three things follow that a user of the policies relies on: the default policies refuse nothing, rows
after a refused row change nothing, and a source that the strictest policies take is taken by all,
with the same catalog. The last one is not a consequence of the positions. It is about two runs of
the loop, and is proved for one step of it first (`takeRow_of_strict`).
-/

set_option autoImplicit false

namespace ErrorCatalog

/-! ## 1. The first refusal by position -/

namespace BuildPolicy

variable {policy : BuildPolicy} {width : Nat} {taken rows : List Row}

theorem firstRefusal_append (policy : BuildPolicy) (width : Nat) (rows more : List Row) :
    ∀ taken : List Row, policy.firstRefusal width taken (rows ++ more) =
      (policy.firstRefusal width taken rows).or (policy.firstRefusal width (taken ++ rows) more) := by
  induction rows with
  | nil => intro taken; simp [firstRefusal]
  | cons row rows ih =>
    intro taken
    simp only [List.cons_append, firstRefusal]
    rw [ih, Option.or_assoc, List.append_assoc]
    rfl

/-- No row is refused exactly if none is refused at its position. -/
theorem firstRefusal_eq_none_iff :
    policy.firstRefusal width taken rows = none ↔
      ∀ k row, rows[k]? = some row → policy.refusal width (taken ++ rows.take k) row = none := by
  induction rows generalizing taken with
  | nil => simp [firstRefusal]
  | cons first rest ih =>
    rw [firstRefusal, Option.or_eq_none_iff, ih]
    constructor
    · rintro ⟨hfirst, hrest⟩ k row hk
      cases k with
      | zero =>
        obtain rfl : first = row := by simpa using hk
        simpa using hfirst
      | succ k => simpa using hrest k row (by simpa using hk)
    · intro h
      refine ⟨by simpa using h 0 first rfl, fun k row hk => ?_⟩
      simpa using h (k + 1) row (by simpa using hk)

/-- The first refusal is that of the first position at which there is one. -/
theorem firstRefusal_eq_some {k : Nat} {row : Row} {e : LoadError} (hk : rows[k]? = some row)
    (he : policy.refusal width (taken ++ rows.take k) row = some e)
    (hbefore : ∀ j < k, ∀ r, rows[j]? = some r →
      policy.refusal width (taken ++ rows.take j) r = none) :
    policy.firstRefusal width taken rows = some e := by
  have hlt : k < rows.length := (List.getElem?_eq_some_iff.mp hk).1
  -- The rows before `k` are passed over, because none of them is refused where it stands.
  have hnone : policy.firstRefusal width taken (rows.take k) = none := by
    refine firstRefusal_eq_none_iff.mpr fun j r hj => ?_
    have hjk : j < k := by
      have := (List.getElem?_eq_some_iff.mp hj).1
      rw [List.length_take] at this
      omega
    rw [List.getElem?_take_of_lt hjk] at hj
    rw [List.take_take, Nat.min_eq_left (Nat.le_of_lt hjk)]
    exact hbefore j hjk r hj
  have hdrop : rows.drop k = row :: rows.drop (k + 1) := by
    rw [List.drop_eq_getElem_cons hlt, (List.getElem?_eq_some_iff.mp hk).2]
  rw [← List.take_append_drop k rows, firstRefusal_append, hnone, Option.none_or, hdrop, firstRefusal,
    he, Option.some_or]

/-! ## 2. Positions of refused rows -/

/-- Whether the row at a position is refused: it is too wide, or an earlier row has its name. -/
def RefusesAt (policy : BuildPolicy) (width : Nat) (rows : List Row) (k : Nat) : Prop :=
  ∃ row, rows[k]? = some row ∧ (policy.RefusesWidth width row ∨
    policy.onCollision = .reject ∧
      ∃ i < k, ∃ earlier, rows[i]? = some earlier ∧ earlier.recordName = row.recordName)

theorem exists_lt_iff_mem_take {k : Nat} {name : RecordName} :
    (∃ i < k, ∃ earlier, rows[i]? = some earlier ∧ earlier.recordName = name) ↔
      ∃ earlier ∈ rows.take k, earlier.recordName = name := by
  constructor
  · rintro ⟨i, hi, earlier, hget, hname⟩
    refine ⟨earlier, List.mem_iff_getElem?.mpr ⟨i, ?_⟩, hname⟩
    rw [List.getElem?_take_of_lt hi, hget]
  · rintro ⟨earlier, hmem, hname⟩
    obtain ⟨i, hget⟩ := List.mem_iff_getElem?.mp hmem
    have hi : i < k := by
      have := (List.getElem?_eq_some_iff.mp hget).1
      rw [List.length_take] at this
      omega
    exact ⟨i, hi, earlier, by rwa [List.getElem?_take_of_lt hi] at hget, hname⟩

theorem refusal_eq_none_iff {k : Nat} {row : Row} (hk : rows[k]? = some row) :
    policy.refusal width (rows.take k) row = none ↔ ¬ policy.RefusesAt width rows k := by
  have hname : (∃ i < k, ∃ earlier, rows[i]? = some earlier ∧ earlier.recordName = row.recordName) ↔
      firstNamed? row.recordName (rows.take k) ≠ none := by
    rw [exists_lt_iff_mem_take, Ne, firstNamed?_eq_none_iff]
    simp
  have hat : policy.RefusesAt width rows k ↔ policy.RefusesWidth width row ∨
      policy.onCollision = .reject ∧ firstNamed? row.recordName (rows.take k) ≠ none := by
    rw [RefusesAt, ← hname]
    constructor
    · rintro ⟨r, hr, h⟩
      obtain rfl : row = r := Option.some.inj (hk.symm.trans hr)
      exact h
    · exact fun h => ⟨row, hk, h⟩
  rw [hat, refusal, CollisionPolicy.refusal]
  by_cases hw : policy.RefusesWidth width row
  · simp [hw]
  · -- Only the name is left, and it is asked about only if repeating it is refused.
    by_cases hc : policy.onCollision = .reject
    · simp [hw, hc]
    · simp [hw, hc]

/-- The first row with a name, if it comes before a position. -/
theorem firstNamed?_take {k : Nat} {name : RecordName} {first : Row}
    (h : firstNamed? name (rows.take k) = some first) : firstNamed? name rows = some first := by
  rw [← List.take_append_drop k rows, firstNamed?, List.find?_append]
  rw [firstNamed?] at h
  rw [h, Option.some_or]

end BuildPolicy

/-! ## 3. One refusal for the whole source -/

namespace Source

variable {policy : BuildPolicy} {source : Source} {header : Row} {data : List Row}

theorem catalog_eq_error_of_refusal (hrows : source.rows = header :: data) {e : LoadError}
    (he : policy.firstRefusal header.fields.length [] data = some e) :
    source.catalog policy = .error e := by
  have h := catalog_of_rows_cons policy hrows
  rwa [he] at h

theorem exists_catalog_of_no_refusal (hrows : source.rows = header :: data)
    (hnone : policy.firstRefusal header.fields.length [] data = none) :
    ∃ c, source.catalog policy = .ok c := by
  have h := catalog_of_rows_cons policy hrows
  rw [hnone] at h
  exact ⟨h.choose, h.choose_spec.1⟩

theorem firstRefusal_eq_some_of_error (hrows : source.rows = header :: data) {e : LoadError}
    (he : source.catalog policy = .error e) :
    policy.firstRefusal header.fields.length [] data = some e := by
  cases hr : policy.firstRefusal header.fields.length [] data with
  | some e' =>
    rw [catalog_eq_error_of_refusal hrows hr] at he
    exact congrArg some (Except.error.inj he)
  | none =>
    obtain ⟨c, hc⟩ := exists_catalog_of_no_refusal hrows hr
    rw [hc] at he
    cases he

theorem exists_error_iff_refusesAt (hrows : source.rows = header :: data) :
    (∃ e, source.catalog policy = .error e) ↔
      ∃ k, policy.RefusesAt header.fields.length data k := by
  constructor
  · rintro ⟨e, he⟩
    refine Classical.byContradiction fun hnot => ?_
    have hnone : policy.firstRefusal header.fields.length [] data = none :=
      BuildPolicy.firstRefusal_eq_none_iff.mpr fun k row hk =>
        (BuildPolicy.refusal_eq_none_iff hk).mpr fun hat => hnot ⟨k, hat⟩
    rw [firstRefusal_eq_some_of_error hrows he] at hnone
    cases hnone
  · rintro ⟨k, hat⟩
    cases hr : policy.firstRefusal header.fields.length [] data with
    | some e => exact ⟨e, catalog_eq_error_of_refusal hrows hr⟩
    | none =>
      obtain ⟨row, hk, -⟩ := id hat
      exact absurd hat ((BuildPolicy.refusal_eq_none_iff hk).mp
        (BuildPolicy.firstRefusal_eq_none_iff.mp hr k row hk))

/-- The error is that of the least refused position. -/
theorem catalog_eq_error_of_least (hrows : source.rows = header :: data) {k : Nat} {row : Row}
    {e : LoadError} (hk : data[k]? = some row)
    (he : policy.refusal header.fields.length (data.take k) row = some e)
    (hleast : ∀ j < k, ¬ policy.RefusesAt header.fields.length data j) :
    source.catalog policy = .error e :=
  catalog_eq_error_of_refusal hrows <| BuildPolicy.firstRefusal_eq_some hk he fun j hj _ hget =>
    (BuildPolicy.refusal_eq_none_iff hget).mpr (hleast j hj)

end Source

/-! ## 4. Two policies -/

theorem checkWidth_of_strict (policy : OverflowPolicy) {width : Nat} {row : Row}
    (h : (checkWidth .reject width row).2 = .ok ()) : (checkWidth policy width row).2 = .ok () := by
  rw [snd_checkWidth ⟨.overwrite, .reject⟩] at h
  rw [snd_checkWidth ⟨.overwrite, policy⟩]
  refine if_neg fun hw => ?_
  rw [if_pos ⟨rfl, hw.2⟩] at h
  cases h

theorem storeRow_of_strict (policy : CollisionPolicy) {p next : Progress} {row : Row}
    (h : (storeRow .reject p row).2 = .ok next) : (storeRow policy p row).2 = .ok next := by
  unfold storeRow at h ⊢
  dsimp only at h ⊢
  split at h
  · cases h
  · exact h

/-- A row that the strictest policies take is taken by all, in the same way. -/
theorem takeRow_of_strict (policy : BuildPolicy) {p next : Progress} {row : Row}
    (h : (takeRow ⟨.reject, .reject⟩ p row).2 = .ok next) :
    (takeRow policy p row).2 = .ok next := by
  rw [snd_takeRow] at h ⊢
  cases hc : (checkWidth .reject p.catalog.width row).2 with
  | error e => rw [hc] at h; cases h
  | ok =>
    rw [hc] at h
    rw [checkWidth_of_strict policy.onOverflow hc]
    exact storeRow_of_strict policy.onCollision h

theorem takeRows_of_strict (policy : BuildPolicy) (rows : List Row) :
    ∀ {p last : Progress}, (takeRows ⟨.reject, .reject⟩ p rows).2 = .ok last →
      (takeRows policy p rows).2 = .ok last := by
  induction rows with
  | nil => intro p last h; exact h
  | cons row rows ih =>
    intro p last h
    rw [snd_takeRows_cons] at h ⊢
    cases hr : (takeRow ⟨.reject, .reject⟩ p row).2 with
    | error e => rw [hr] at h; cases h
    | ok next =>
      rw [hr] at h
      rw [takeRow_of_strict policy hr]
      exact ih h

theorem Source.catalog_of_strict (policy : BuildPolicy) {source : Source} {c : Catalog}
    (h : source.catalog ⟨.reject, .reject⟩ = .ok c) : source.catalog policy = .ok c := by
  cases hrows : source.rows with
  | nil =>
    rw [catalog_of_rows_nil _ hrows] at h
    cases h
  | cons header data =>
    rw [catalog_eq_map _ hrows] at h ⊢
    cases hr : (takeRows ⟨.reject, .reject⟩ ⟨Catalog.empty header.fields, []⟩ data).2 with
    | error e => rw [hr] at h; cases h
    | ok last =>
      rw [hr] at h
      rw [takeRows_of_strict policy data hr]
      exact h

/-! ## 5. When there is no catalog -/

/-- Whether an error is about a row, and not about the input as a whole. -/
def LoadError.IsOfRow : LoadError → Prop
  | .collision _ _ _ | .overflow _ _ _ => True
  | .unavailable _ _ | .empty _ => False

theorem BuildPolicy.isOfRow_of_refusal {policy : BuildPolicy} {width : Nat} {taken : List Row}
    {row : Row} {e : LoadError} (h : policy.refusal width taken row = some e) : e.IsOfRow := by
  unfold BuildPolicy.refusal CollisionPolicy.refusal at h
  split at h
  · cases h
    exact trivial
  · split at h
    · obtain ⟨first, -, rfl⟩ := Option.map_eq_some_iff.mp h
      exact trivial
    · cases h

theorem BuildPolicy.isOfRow_of_firstRefusal {policy : BuildPolicy} {width : Nat} {e : LoadError}
    {rows : List Row} :
    ∀ {taken}, policy.firstRefusal width taken rows = some e → e.IsOfRow := by
  induction rows with
  | nil =>
    intro taken h
    cases h
  | cons row rows ih =>
    intro taken h
    rw [firstRefusal, Option.or_eq_some_iff] at h
    rcases h with h | ⟨-, h⟩
    · exact isOfRow_of_refusal h
    · exact ih h

/-- An error of building is about a row, or says that there is none. -/
theorem Source.isOfRow_or_empty {policy : BuildPolicy} {source : Source} {e : LoadError}
    (h : source.catalog policy = .error e) : e.IsOfRow ∨ e = .empty source.name := by
  cases hrows : source.rows with
  | nil =>
    rw [catalog_of_rows_nil policy hrows] at h
    exact Or.inr (Except.error.inj h).symm
  | cons header data =>
    exact Or.inl (BuildPolicy.isOfRow_of_firstRefusal (firstRefusal_eq_some_of_error hrows h))

theorem Source.catalog_eq_empty_iff (policy : BuildPolicy) (source : Source) :
    (∃ name, source.catalog policy = .error (.empty name)) ↔ source.rows = [] := by
  constructor
  · rintro ⟨name, h⟩
    cases hrows : source.rows with
    | nil => rfl
    | cons header data =>
      exact (BuildPolicy.isOfRow_of_firstRefusal (firstRefusal_eq_some_of_error hrows h)).elim
  · exact fun h => ⟨source.name, catalog_of_rows_nil policy h⟩

/-- The default policies refuse nothing. -/
theorem BuildPolicy.not_refusesAt_default (width : Nat) (rows : List Row) (k : Nat) :
    ¬ BuildPolicy.RefusesAt ⟨.overwrite, .ignore⟩ width rows k := by
  rintro ⟨row, -, ⟨h, -⟩ | ⟨h, -⟩⟩ <;> cases h

theorem Source.exists_catalog_default {source : Source} (hne : source.rows ≠ []) :
    ∃ c, source.catalog ⟨.overwrite, .ignore⟩ = .ok c := by
  obtain ⟨header, data, hrows⟩ := List.exists_cons_of_ne_nil hne
  refine exists_catalog_of_no_refusal hrows (BuildPolicy.firstRefusal_eq_none_iff.mpr ?_)
  intro k row hk
  exact (BuildPolicy.refusal_eq_none_iff hk).mpr (BuildPolicy.not_refusesAt_default _ data k)

/-- **When there is no catalog, and why.** A source without rows is empty, and nothing else is. With
a header, there is no catalog exactly if some row is refused, and the error is that of the first such
row: its width if it is too wide, also if its name was used as well, and otherwise its name with the
line of the first row that has it. -/
theorem Source.catalog_error_iff_first_refusal (policy : BuildPolicy) (source : Source) :
    ((∃ name, source.catalog policy = .error (.empty name)) ↔ source.rows = []) ∧
    (source.rows = [] → source.catalog policy = .error (.empty source.name)) ∧
    (∀ header data, source.rows = header :: data →
      ((∃ e, source.catalog policy = .error e) ↔
        ∃ k, policy.RefusesAt header.fields.length data k) ∧
      ∀ k row, data[k]? = some row → policy.RefusesAt header.fields.length data k →
        (∀ j < k, ¬ policy.RefusesAt header.fields.length data j) →
        (policy.RefusesWidth header.fields.length row → source.catalog policy =
          .error (.overflow row.line header.fields.length row.fields.length)) ∧
        (¬ policy.RefusesWidth header.fields.length row →
          ∃ first, firstNamed? row.recordName data = some first ∧ source.catalog policy =
            .error (.collision row.recordName first.line row.line))) ∧
    (source.rows ≠ [] → ∃ c, source.catalog ⟨.overwrite, .ignore⟩ = .ok c) ∧
    (source.rows ≠ [] → ∀ e, source.catalog policy = .error e →
      ∀ more, Source.catalog policy ⟨source.name, source.rows ++ more⟩ = .error e) ∧
    (∀ c, source.catalog ⟨.reject, .reject⟩ = .ok c → source.catalog policy = .ok c) := by
  refine ⟨source.catalog_eq_empty_iff policy, catalog_of_rows_nil policy, ?_, ?_, ?_,
    fun c => catalog_of_strict policy⟩
  · intro header data hrows
    refine ⟨exists_error_iff_refusesAt hrows, fun k row hk hat hleast => ⟨fun hw => ?_, fun hw => ?_⟩⟩
    · exact catalog_eq_error_of_least hrows hk (if_pos hw) hleast
    · have hrefusal : policy.refusal header.fields.length (data.take k) row ≠ none :=
        fun h => (BuildPolicy.refusal_eq_none_iff hk).mp h hat
      rw [BuildPolicy.refusal, if_neg hw, CollisionPolicy.refusal] at hrefusal
      by_cases hc : policy.onCollision = .reject
      · rw [if_pos hc, Ne, Option.map_eq_none_iff] at hrefusal
        obtain ⟨first, hfirst⟩ := Option.ne_none_iff_exists'.mp hrefusal
        refine ⟨first, BuildPolicy.firstNamed?_take hfirst,
          catalog_eq_error_of_least hrows hk ?_ hleast⟩
        rw [BuildPolicy.refusal, if_neg hw, CollisionPolicy.refusal, if_pos hc, hfirst,
          Option.map_some]
      · exact absurd (if_neg hc) hrefusal
  · intro hne
    obtain ⟨header, data, hrows⟩ := List.exists_cons_of_ne_nil hne
    refine exists_catalog_of_no_refusal hrows (BuildPolicy.firstRefusal_eq_none_iff.mpr ?_)
    exact fun k row hk => (BuildPolicy.refusal_eq_none_iff hk).mpr
      (BuildPolicy.not_refusesAt_default _ data k)
  · intro hne e he more
    obtain ⟨header, data, hrows⟩ := List.exists_cons_of_ne_nil hne
    have hmore : (Source.mk source.name (source.rows ++ more)).rows = header :: (data ++ more) := by
      rw [hrows, List.cons_append]
    refine catalog_eq_error_of_refusal hmore ?_
    rw [BuildPolicy.firstRefusal_append, firstRefusal_eq_some_of_error hrows he, Option.some_or]

/-- A row that is too wide and repeats a name is refused for its width. -/
example : (Source.ofText inlineName "a\nx\n\nX|y".toList).catalog ⟨.reject, .reject⟩ =
    .error (.overflow 4 1 2) := rfl

end ErrorCatalog
