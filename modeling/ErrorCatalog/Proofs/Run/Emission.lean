import ErrorCatalog.Proofs.File.Growth
import ErrorCatalog.Proofs.Run.Effect

/-!
# `ErrorCatalog/Proofs/Run/Emission.lean` — deliveries one after the other, up to the first that fails

What one delivery does to the files is `FileTree.emit`, and `emit_cases` says once all that it can do. It
makes room for the artifact, which makes directories and nothing else. Then it writes one file, or fails
and has written nothing.

`Delivers` puts such steps one after the other, as long as they succeed. The stage that delivers the
artifacts of all languages has two nested loops and two ways out of them. Against `Delivers` both come to
one list: the artifacts of all languages in order, of which a beginning is delivered
(`output_stops_at_first_failure`). A log file would be one more file that changes, so this is about runs
whose log goes to the standard error stream.
-/

set_option autoImplicit false

namespace ErrorCatalog

/-! ## 1. One delivery -/

/-- The directories that a file needs: the one it is in, and those above. -/
def Path.room (p : Path) : List Path :=
  match p.parent? with
  | none => []
  | some directory => directory.selfAndAncestors

/-- What delivering one artifact gives, and what it does to the files. -/
def FileTree.emit (t : FileTree) (root : Path) (a : Artifact) :
    Except DeliveryFault Delivered × FileTree :=
  (deliver [] root a).effect .empty t

variable {root : Path} {a : Artifact} {t t' u : FileTree} {artifacts : List Artifact}

theorem effect_writeArtifact (spans : List Span) (a : Artifact) (path : Path) (input : ByteArray)
    (t : FileTree) :
    (writeArtifact spans a path).effect input t =
      match t.write path (Text.encode a.contents) with
      | .error cause => (.error (.file a.name path cause), t)
      | .ok after => (.ok (a.deliveredTo path), after) := by
  unfold writeArtifact Script.effect
  cases t.write path (Text.encode a.contents) with
  | error cause => rfl
  | ok after => rfl

theorem effect_deliver_eq (spans : List Span) (root : Path) (a : Artifact) (input : ByteArray)
    (t : FileTree) :
    (deliver spans root a).effect input t =
      match t.ensureChain (a.pathBelow root).room with
      | (.error cause, after) =>
        (.error (.directory ((a.pathBelow root).parent?.getD root) cause), after)
      | (.ok (), after) =>
        match after.write (a.pathBelow root) (Text.encode a.contents) with
        | .error cause => (.error (.file a.name (a.pathBelow root) cause), after)
        | .ok last => (.ok (a.deliveredTo (a.pathBelow root)), last) := by
  unfold deliver Path.room
  dsimp only
  cases (a.pathBelow root).parent? with
  | none => exact effect_writeArtifact spans a _ input t
  | some directory =>
    dsimp only [Script.effect, Option.getD_some]
    unfold FileTree.makeDirectories
    cases t.ensureChain directory.selfAndAncestors with
    | mk outcome after =>
      cases outcome with
      | error cause => rfl
      | ok _ => exact effect_writeArtifact spans a _ input after

/-- The open spans and the standard input do not matter to a delivery. -/
theorem effect_deliver (spans : List Span) (root : Path) (a : Artifact) (input : ByteArray)
    (t : FileTree) : (deliver spans root a).effect input t = t.emit root a := by
  rw [FileTree.emit, effect_deliver_eq, effect_deliver_eq]

/-- Where there is room for an artifact and its file can be written, it is written. -/
theorem FileTree.emit_of_accepts (hroom : t.ensureChain (a.pathBelow root).room = (.ok (), u))
    {l : Location} (h : u.Accepts (a.pathBelow root) l) :
    t.emit root a =
      (.ok (a.delivered (some root)), u.overwrite l (Text.encode a.contents)) := by
  rw [emit, effect_deliver_eq, hroom]
  dsimp only
  rw [write_eq_ok_iff.mpr ⟨l, h, rfl⟩]
  rfl

/-- **All that a delivery can do.** It makes directories that the artifact needs, and either fails or
writes the one file. -/
theorem FileTree.emit_cases (t : FileTree) (root : Path) (a : Artifact) :
    ∃ made, t.Extends (LeadTo (a.pathBelow root).room t.home) made ∧
      ((∃ fault, t.emit root a = (.error fault, made)) ∨
        t.ensureChain (a.pathBelow root).room = (.ok (), made) ∧
          ∃ l, made.Accepts (a.pathBelow root) l ∧ t.emit root a =
            (.ok (a.delivered (some root)), made.overwrite l (Text.encode a.contents))) := by
  refine ⟨_, extends_ensureChain (a.pathBelow root).room, ?_⟩
  cases hroom : t.ensureChain (a.pathBelow root).room with
  | mk outcome made =>
    cases outcome with
    | error cause =>
      refine Or.inl ⟨.directory ((a.pathBelow root).parent?.getD root) cause, ?_⟩
      rw [emit, effect_deliver_eq, hroom]
    | ok _ =>
      cases hwrite : made.write (a.pathBelow root) (Text.encode a.contents) with
      | error cause =>
        refine Or.inl ⟨.file a.name (a.pathBelow root) cause, ?_⟩
        rw [emit, effect_deliver_eq, hroom]
        dsimp only
        rw [hwrite]
      | ok last =>
        obtain ⟨l, haccepts, -⟩ := write_eq_ok_iff.mp hwrite
        exact Or.inr ⟨rfl, l, haccepts, emit_of_accepts hroom haccepts⟩

/-- A delivery that fails has at most made directories. -/
theorem FileTree.extends_of_emit_error {fault : DeliveryFault}
    (h : t.emit root a = (.error fault, u)) :
    t.Extends (LeadTo (a.pathBelow root).room t.home) u := by
  obtain ⟨made, hextends, ⟨other, hother⟩ | ⟨-, l, -, hok⟩⟩ := t.emit_cases root a
  · rw [h] at hother
    obtain ⟨-, rfl⟩ := Prod.mk.inj hother
    exact hextends
  · rw [h] at hok
    cases (Prod.mk.inj hok).1

/-- A delivery that succeeds has made room and written one file. -/
theorem FileTree.of_emit_ok {d : Delivered} (h : t.emit root a = (.ok d, u)) :
    d = a.delivered (some root) ∧
      ∃ made l, t.Extends (LeadTo (a.pathBelow root).room t.home) made ∧
        t.ensureChain (a.pathBelow root).room = (.ok (), made) ∧
        made.Accepts (a.pathBelow root) l ∧ u = made.overwrite l (Text.encode a.contents) := by
  obtain ⟨made, hextends, ⟨other, hother⟩ | ⟨hroom, l, haccepts, hok⟩⟩ := t.emit_cases root a
  · rw [h] at hother
    cases (Prod.mk.inj hother).1
  · rw [h] at hok
    obtain ⟨hd, hu⟩ := Prod.mk.inj hok
    exact ⟨Except.ok.inj hd, made, l, hextends, hroom, haccepts, hu⟩

theorem FileTree.emit_eq_of_toBool (h : (t.emit root a).1.toBool = true) :
    t.emit root a = (.ok (a.delivered (some root)), (t.emit root a).2) := by
  cases hemit : t.emit root a with
  | mk outcome u =>
    cases outcome with
    | error fault =>
      rw [hemit] at h
      cases h
    | ok d => rw [(of_emit_ok hemit).1]

theorem FileTree.exists_fault_of_toBool (h : (t.emit root a).1.toBool = false) :
    ∃ fault, t.emit root a = (.error fault, (t.emit root a).2) := by
  cases hemit : t.emit root a with
  | mk outcome u =>
    cases outcome with
    | error fault => exact ⟨fault, rfl⟩
    | ok d =>
      rw [hemit] at h
      cases h

/-! ## 2. Many deliveries -/

/-- Whether artifacts can be delivered below a root one after the other, and what is there then. -/
inductive Delivers (root : Path) : FileTree → List Artifact → FileTree → Prop where
  | nil (t : FileTree) : Delivers root t [] t
  | cons {t next last : FileTree} {a : Artifact} {rest : List Artifact} {d : Delivered}
      (first : t.emit root a = (.ok d, next)) (others : Delivers root next rest last) :
      Delivers root t (a :: rest) last

theorem delivers_append {earlier later : List Artifact} :
    Delivers root t (earlier ++ later) u ↔
      ∃ t', Delivers root t earlier t' ∧ Delivers root t' later u := by
  induction earlier generalizing t with
  | nil =>
    constructor
    · exact fun h => ⟨t, .nil t, h⟩
    · rintro ⟨t', h, h'⟩
      cases h
      exact h'
  | cons a rest ih =>
    constructor
    · intro h
      cases h with
      | cons first others =>
        obtain ⟨t', hrest, hlater⟩ := ih.mp others
        exact ⟨t', .cons first hrest, hlater⟩
    · rintro ⟨t', h, hlater⟩
      cases h with
      | cons first others => exact .cons first (ih.mpr ⟨t', others, hlater⟩)

/-- Either all artifacts can be delivered, or there is a first that cannot. -/
theorem delivers_or_stops (root : Path) (artifacts : List Artifact) (t : FileTree) :
    (∃ u, Delivers root t artifacts u) ∨
      ∃ done a rest t' fault u, artifacts = done ++ a :: rest ∧ Delivers root t done t' ∧
        t'.emit root a = (.error fault, u) := by
  induction artifacts generalizing t with
  | nil => exact Or.inl ⟨t, .nil t⟩
  | cons a rest ih =>
    cases hfirst : t.emit root a with
    | mk outcome next =>
      cases outcome with
      | error fault => exact Or.inr ⟨[], a, rest, t, fault, next, rfl, .nil t, hfirst⟩
      | ok d =>
        rcases ih next with ⟨u, hrest⟩ | ⟨done, b, others, t', fault, u, rfl, hdone, hfault⟩
        · exact Or.inl ⟨u, .cons hfirst hrest⟩
        · exact Or.inr ⟨a :: done, b, others, t', fault, u, rfl, .cons hfirst hdone, hfault⟩

section Scripts

variable (spans : List Span) (input : ByteArray)

theorem effect_deliverAll (h : Delivers root t artifacts u) :
    (deliverAll spans root artifacts).effect input t =
      (.ok (artifacts.map (Artifact.delivered (some root))), u) := by
  induction h with
  | nil t => rfl
  | cons first others ih =>
    rw [deliverAll, Script.effect_bind, effect_deliver, first]
    dsimp only
    rw [Script.effect_bind, ih, (FileTree.of_emit_ok first).1]
    rfl

/-- The first delivery that fails ends the others. -/
theorem effect_deliverAll_of_error {done rest : List Artifact} (h : Delivers root t done t')
    {fault : DeliveryFault} (hfault : t'.emit root a = (.error fault, u)) :
    (deliverAll spans root (done ++ a :: rest)).effect input t =
      (.error ⟨a.fileName, fault⟩, u) := by
  induction h with
  | nil t =>
    rw [List.nil_append, deliverAll, Script.effect_bind, effect_deliver, hfault]
    rfl
  | cons first others ih =>
    rw [List.cons_append, deliverAll, Script.effect_bind, effect_deliver, first]
    dsimp only
    rw [Script.effect_bind, ih hfault]
    rfl

theorem delivers_of_effect {ds : List Delivered}
    (h : (deliverAll spans root artifacts).effect input t = (.ok ds, u)) :
    Delivers root t artifacts u := by
  rcases delivers_or_stops root artifacts t with
    ⟨u', hall⟩ | ⟨done, a, rest, t', fault, u', rfl, hdone, hfault⟩
  · rw [effect_deliverAll spans input hall] at h
    obtain ⟨-, rfl⟩ := Prod.mk.inj h
    exact hall
  · rw [effect_deliverAll_of_error spans input hdone hfault] at h
    cases (Prod.mk.inj h).1

/-! ## 3. All languages -/

variable {rendered : List (Language × List Artifact)}

theorem effect_deliverLanguages (h : Delivers root t (rendered.flatMap (·.2)) u) :
    (deliverLanguages spans root rendered).effect input t =
      (.ok (deliveries (some root) rendered), u) := by
  induction rendered generalizing t with
  | nil =>
    cases h
    rfl
  | cons p rest ih =>
    obtain ⟨l, artifacts⟩ := p
    obtain ⟨t', hfirst, hrest⟩ := delivers_append.mp h
    rw [deliverLanguages, Script.effect_bind, effect_deliverAll spans input hfirst]
    dsimp only
    rw [Script.effect_bind, ih hrest]
    rfl

/-- Whether an artifact, of those that are delivered for a language, is the first that cannot be
delivered; those before it leave `t'`, and the attempt leaves `u`. -/
inductive StopsAt (root : Path) (t : FileTree) : List (Language × List Artifact) → Language →
    Artifact → FileTree → DeliveryFault → FileTree → Prop where
  | intro (earlier later : List (Language × List Artifact)) (done rest : List Artifact)
      {l : Language} {a : Artifact} {t' u : FileTree} {fault : DeliveryFault}
      (before : Delivers root t (earlier.flatMap (·.2) ++ done) t')
      (fails : t'.emit root a = (.error fault, u)) :
      StopsAt root t (earlier ++ (l, done ++ a :: rest) :: later) l a t' fault u

variable {l : Language} {fault : DeliveryFault}

theorem StopsAt.fails (h : StopsAt root t rendered l a t' fault u) :
    t'.emit root a = (.error fault, u) := by
  cases h with
  | intro earlier later done rest before fails => exact fails

theorem StopsAt.cons {m : Language} (hfirst : Delivers root t artifacts t')
    {last : FileTree} (h : StopsAt root t' rendered l a last fault u) :
    StopsAt root t ((m, artifacts) :: rendered) l a last fault u := by
  cases h with
  | intro earlier later done rest before fails =>
    refine .intro ((m, artifacts) :: earlier) later done rest ?_ fails
    rw [List.flatMap_cons, List.append_assoc]
    exact delivers_append.mpr ⟨t', hfirst, before⟩

/-- The first delivery that fails ends those of all languages. -/
theorem effect_deliverLanguages_of_stopsAt (h : StopsAt root t rendered l a t' fault u) :
    (deliverLanguages spans root rendered).effect input t =
      (.error (.deliver l ⟨a.fileName, fault⟩), u) := by
  cases h with
  | intro earlier later done rest before fails =>
    induction earlier generalizing t with
    | nil =>
      rw [List.flatMap_nil, List.nil_append] at before
      rw [List.nil_append, deliverLanguages, Script.effect_bind,
        effect_deliverAll_of_error spans input before fails]
      rfl
    | cons p others ih =>
      obtain ⟨m, artifacts⟩ := p
      rw [List.flatMap_cons, List.append_assoc] at before
      obtain ⟨t', hfirst, hrest⟩ := delivers_append.mp before
      rw [List.cons_append, deliverLanguages, Script.effect_bind,
        effect_deliverAll spans input hfirst]
      dsimp only
      rw [Script.effect_bind, ih hrest]
      rfl

theorem stopsAt_or_delivers (root : Path) (rendered : List (Language × List Artifact))
    (t : FileTree) :
    (∃ l a t' fault u, StopsAt root t rendered l a t' fault u) ∨
      ∃ u, Delivers root t (rendered.flatMap (·.2)) u := by
  induction rendered generalizing t with
  | nil => exact Or.inr ⟨t, .nil t⟩
  | cons p others ih =>
    obtain ⟨m, artifacts⟩ := p
    rcases delivers_or_stops root artifacts t with
      ⟨t', hfirst⟩ | ⟨done, a, rest, t', fault, u, rfl, hdone, hfault⟩
    · rcases ih t' with ⟨l, a, last, fault, u, hstops⟩ | ⟨u, hothers⟩
      · exact Or.inl ⟨l, a, last, fault, u, hstops.cons hfirst⟩
      · exact Or.inr ⟨u, delivers_append.mpr ⟨t', hfirst, hothers⟩⟩
    · exact Or.inl ⟨m, a, t', fault, u, .intro [] others done rest hdone hfault⟩

end Scripts

/-! ## 4. The stage -/

/-- Whether what is reported of an artifact is its name, its language, its place and its size. -/
structure Delivered.Reports (root : Path) (a : Artifact) (d : Delivered) : Prop where
  name_eq : d.name = a.name
  language_eq : d.language = a.language
  location_eq : d.location = a.pathBelow root
  bytes_eq : d.bytes = (Text.encode a.contents).size

/-- Whether a report lists every artifact of a language once, in order. -/
structure LanguageReport.Reports (root : Path) (rendered : Language × List Artifact)
    (r : LanguageReport) : Prop where
  language_eq : r.language = rendered.1
  artifacts : List.Forall₂ (Delivered.Reports root) rendered.2 r.artifacts

theorem Artifact.reports_delivered (root : Path) (a : Artifact) :
    Delivered.Reports root a (a.delivered (some root)) :=
  ⟨rfl, rfl, rfl, (Text.size_encode a.contents).symm⟩

theorem reports_deliveries (root : Path) (rendered : List (Language × List Artifact)) :
    List.Forall₂ (LanguageReport.Reports root) rendered (deliveries (some root) rendered) := by
  rw [deliveries, List.forall₂_map_right_iff, List.forall₂_same]
  rintro ⟨l, artifacts⟩ -
  refine ⟨rfl, ?_⟩
  rw [List.forall₂_map_right_iff, List.forall₂_same]
  exact fun a _ => a.reports_delivered root

/-- **Delivering stops at the first artifact that fails, and keeps what was delivered before.** Of the
artifacts of all languages in order, take the first that cannot be delivered. The files are then those
that the artifacts before it left, but for directories that this one needs; and the error names the
language it is delivered for and its file name. If there is no such artifact, every one is reported
once, in order, with its place and its size. One of the two is the case. -/
theorem output_stops_at_first_failure {logger : Script.Logger} (hlog : logger.file = none)
    (clock : Clock) (input : ByteArray) (outer : List Span) (root : Path)
    (rendered : List (Language × List Artifact)) (w : Script.World) :
    let ended := (output outer (some root) rendered).run logger clock input w
    (∀ l a t' fault u, StopsAt root w.tree rendered l a t' fault u →
      ended.2.tree = u ∧ t'.Extends (FileTree.LeadTo (a.pathBelow root).room t'.home) u ∧
        ∃ e, ended.1 = .error e ∧
          e.chain = ["emit ".toList ++ l.label ++ " artifacts".toList, "emit ".toList ++ a.fileName,
            fault.attempt, fault.cause.message]) ∧
    (∀ u, Delivers root w.tree (rendered.flatMap (·.2)) u →
      ended.2.tree = u ∧ ∃ reports, ended.1 = .ok reports ∧
        List.Forall₂ (LanguageReport.Reports root) rendered reports) ∧
    ((∃ l a t' fault u, StopsAt root w.tree rendered l a t' fault u) ∨
      ∃ u, Delivers root w.tree (rendered.flatMap (·.2)) u) := by
  intro ended
  obtain ⟨hresult, htree⟩ :=
    Script.run_eq_effect input hlog clock (output outer (some root) rendered) w
  rw [effect_output, deliverRendered] at hresult htree
  refine ⟨fun l a t' fault u h => ?_, fun u h => ?_, stopsAt_or_delivers root rendered w.tree⟩
  · rw [effect_deliverLanguages_of_stopsAt _ input h] at hresult htree
    exact ⟨htree, FileTree.extends_of_emit_error h.fails, _, hresult, rfl⟩
  · rw [effect_deliverLanguages _ input h] at hresult htree
    exact ⟨htree, _, hresult, reports_deliveries root rendered⟩

/-- The second of three artifacts meets a directory that has its name. The first is written, the third is
not tried, and there is no directory for it. -/
theorem output_stops_at_taken_name :
    let artifact (name : String) (l : Language) : Artifact :=
      ⟨name.toList, l, .enumeration, "text".toList⟩
    let taken : FileTree := ⟨[(["out".toList], .directory), (["out".toList, "go".toList], .directory),
      (["out".toList, "go".toList, "B.go".toList], .directory)], []⟩
    let ended := (output [] (some (.ofString "out"))
      [(.go, [artifact "A" .go, artifact "B" .go]), (.java, [artifact "C" .java])]).run
        .silent ⟨[], 0, [], []⟩ .empty ⟨taken, []⟩
    Script.Logger.silent.file = none ∧
      (ended.2.tree.read (.ofString "out/go/A.go")).toOption.bind Text.decode? =
        some "text".toList ∧
      ended.2.tree.kind? ["out".toList, "java".toList] = none ∧
      ∃ e, ended.1 = .error e ∧
        e.chain.take 2 = ["emit Go artifacts".toList, "emit B.go".toList] := by
  intro artifact taken ended
  have hsilent : Script.Logger.silent.file = none := rfl
  obtain ⟨hstops, -, -⟩ := output_stops_at_first_failure hsilent ⟨[], 0, [], []⟩
    .empty [] (.ofString "out")
    [(.go, [artifact "A" .go, artifact "B" .go]), (.java, [artifact "C" .java])] ⟨taken, []⟩
  have hfirst := FileTree.emit_eq_of_toBool
    (by decide +kernel : (taken.emit (.ofString "out") (artifact "A" .go)).1.toBool = true)
  obtain ⟨fault, hfault⟩ := FileTree.exists_fault_of_toBool
    (by decide +kernel : ((taken.emit (.ofString "out") (artifact "A" .go)).2.emit (.ofString "out")
      (artifact "B" .go)).1.toBool = false)
  obtain ⟨htree, -, e, he, hchain⟩ := hstops .go (artifact "B" .go) _ _ _
    (.intro [] _ [artifact "A" .go] [] (.cons hfirst (.nil _)) hfault)
  refine ⟨hsilent, ?_, ?_, e, he, ?_⟩
  · rw [htree]
    decide +kernel
  · rw [htree]
    decide +kernel
  · rw [hchain]
    rfl

end ErrorCatalog
