import Mathlib.Order.Bounds.Basic
import WorkspaceSearch.Database.Schema
import WorkspaceSearch.Proofs.Outcome

/-!
# Interrupted migrations

A run of the migrations may stop after any of its statements.  The next run starts again with the first migration whose
version is not recorded: what has been made of it already stays as it is (`executeAll_of_has`), and the rest is made
as if nothing had happened (`executeAll_resumed`).  So a run after any number of interrupted ones comes to what a single
run comes to, whatever versions had been recorded before (`migrate_after_interruptions`).

The argument holds for all migrations that make what they rely on (`founded`) and whose versions ascend.
-/

namespace WorkspaceSearch

/-- A statement that may be repeated: any but the recording of a version. -/
def Statement.IsRepeatable : Statement → Prop
  | .recordVersion _ => False
  | _ => True

namespace Schema

variable {s t : Schema} {st : Statement} {sts : List Statement} {made : List String}

/-! ### One statement -/

/-- What a statement makes is there. -/
def Has (s : Schema) : Statement → Prop
  | .createTable name => name ∈ s.tables
  | .createIndex name _ => name ∈ s.indexes
  | .recordVersion version => version ∈ s.versions

/-- A statement takes nothing away, makes what it says, and records a version only when it says so. -/
structure Makes (st : Statement) (s t : Schema) : Prop where
  tables : s.tables ⊆ t.tables
  indexes : s.indexes ⊆ t.indexes
  versions : s.versions ⊆ t.versions
  has : t.Has st
  versions_eq : st.IsRepeatable → t.versions = s.versions

private theorem makes_of_execute (h : s.execute st = .ok t) : Makes st s t := by
  cases st with
  | createTable name =>
    obtain rfl := Except.ok.inj h
    -- what is there already is left as it is
    by_cases hname : s.tables.contains name
    · rw [if_pos hname]
      exact ⟨List.Subset.refl _, List.Subset.refl _, List.Subset.refl _, List.contains_iff_mem.1 hname, fun _ => rfl⟩
    · rw [if_neg hname]
      exact ⟨List.subset_append_left _ _, List.Subset.refl _, List.Subset.refl _,
        List.mem_append_right _ List.mem_cons_self, fun _ => rfl⟩
  | createIndex name table =>
    rw [execute] at h
    split at h
    · next hname =>
      obtain rfl := Except.ok.inj h
      exact ⟨List.Subset.refl _, List.Subset.refl _, List.Subset.refl _, List.contains_iff_mem.1 hname, fun _ => rfl⟩
    · split at h
      · obtain rfl := Except.ok.inj h
        exact ⟨List.Subset.refl _, List.subset_append_left _ _, List.Subset.refl _,
          List.mem_append_right _ List.mem_cons_self, fun _ => rfl⟩
      · cases h
  | recordVersion version =>
    rw [execute] at h
    split at h
    · cases h
    · split at h
      · cases h
      · obtain rfl := Except.ok.inj h
        exact ⟨List.Subset.refl _, List.Subset.refl _, List.subset_append_left _ _,
          List.mem_append_right _ List.mem_cons_self, False.elim⟩

/-- What is there stays there. -/
private theorem Has.of_makes {st' : Statement} (h : s.Has st) (hmakes : Makes st' s t) : t.Has st := by
  cases st with
  | createTable name => exact hmakes.tables h
  | createIndex name table => exact hmakes.indexes h
  | recordVersion version => exact hmakes.versions h

/-- A table or an index that is there is not made again. -/
private theorem execute_of_has (hrepeat : st.IsRepeatable) (h : s.Has st) : s.execute st = .ok s := by
  cases st with
  | createTable name => exact congrArg Except.ok (if_pos (List.contains_iff_mem.2 h))
  | createIndex name table => exact if_pos (List.contains_iff_mem.2 h)
  | recordVersion version => exact hrepeat.elim

private theorem execute_recordVersion {version : Int} (htable : versionTable ∈ s.tables) (hnew : version ∉ s.versions) :
    s.execute (.recordVersion version) = .ok { s with versions := s.versions ++ [version] } := by
  rw [execute, if_neg (by simpa using htable), if_neg (by simpa using hnew)]

/-! ### Statements in a row -/

theorem executeAll_nil (s : Schema) : s.executeAll [] = .ok s := rfl

private theorem executeAll_cons (s : Schema) (st : Statement) (sts : List Statement) :
    s.executeAll (st :: sts) = s.execute st >>= fun t => t.executeAll sts :=
  List.foldlM_cons

private theorem executeAll_append (s : Schema) (front back : List Statement) :
    s.executeAll (front ++ back) = s.executeAll front >>= fun t => t.executeAll back :=
  List.foldlM_append

theorem executeAll_of_has (hrepeat : ∀ st ∈ sts, st.IsRepeatable) (h : ∀ st ∈ sts, s.Has st) :
    s.executeAll sts = .ok s := by
  induction sts with
  | nil => rfl
  | cons st sts ih =>
    rw [executeAll_cons, execute_of_has (hrepeat st List.mem_cons_self) (h st List.mem_cons_self), Outcome.ok_bind]
    exact ih (fun st' hst' => hrepeat st' (List.mem_cons_of_mem st hst'))
      fun st' hst' => h st' (List.mem_cons_of_mem st hst')

/-- Statements keep what was there and leave what they make. -/
private theorem has_of_executeAll (h : s.executeAll sts = .ok t) :
    (∀ st, s.Has st → t.Has st) ∧ ∀ st ∈ sts, t.Has st := by
  induction sts generalizing s with
  | nil =>
    obtain rfl := Except.ok.inj h
    exact ⟨fun _ => id, by simp⟩
  | cons st sts ih =>
    rw [executeAll_cons] at h
    obtain ⟨s', hs', h⟩ := Outcome.bind_eq_ok.1 h
    have hmakes := makes_of_execute hs'
    obtain ⟨hkeeps, hleaves⟩ := ih h
    exact ⟨fun st' hst' => hkeeps st' (hst'.of_makes hmakes),
      List.forall_mem_cons.2 ⟨hkeeps st hmakes.has, hleaves⟩⟩

/-! ### Statements that make what they rely on -/

/-- Every index is on a table that is made before it, or that has been made already; no version is recorded. -/
def founded : List String → List Statement → Bool
  | _, [] => true
  | made, .createTable name :: sts => founded (name :: made) sts
  | made, .createIndex _ table :: sts => made.contains table && founded made sts
  | _, .recordVersion _ :: _ => false

private theorem isRepeatable_of_founded (h : founded made sts = true) : ∀ st ∈ sts, st.IsRepeatable := by
  induction sts generalizing made with
  | nil => simp
  | cons st sts ih =>
    cases st with
    | createTable name => exact List.forall_mem_cons.2 ⟨trivial, ih h⟩
    | createIndex name table => exact List.forall_mem_cons.2 ⟨trivial, ih (Bool.and_eq_true_iff.1 h).2⟩
    | recordVersion version => cases h

private theorem founded_take (h : founded made sts = true) (count : Nat) : founded made (sts.take count) = true := by
  induction sts generalizing made count with
  | nil => rw [List.take_nil]; rfl
  | cons st sts ih =>
    cases count with
    | zero => rfl
    | succ count =>
      cases st with
      | createTable name => exact ih h count
      | createIndex name table =>
        obtain ⟨htable, h⟩ := Bool.and_eq_true_iff.1 h
        exact Bool.and_eq_true_iff.2 ⟨htable, ih h count⟩
      | recordVersion version => cases h

/-- Such statements are executed to their end, and record nothing. -/
private theorem exists_executeAll (h : founded made sts = true) (hmade : made ⊆ s.tables) :
    ∃ t, s.executeAll sts = .ok t ∧ t.versions = s.versions := by
  induction sts generalizing made s with
  | nil => exact ⟨s, rfl, rfl⟩
  | cons st sts ih =>
    -- the statement itself is executed, and the tables that the rest relies on are there after it
    obtain ⟨s', made', hs', hrepeat, hrest, hmade'⟩ : ∃ s' made', s.execute st = .ok s' ∧ st.IsRepeatable ∧
        founded made' sts = true ∧ made' ⊆ s'.tables := by
      cases st with
      | createTable name =>
        have hmakes := makes_of_execute (rfl : s.execute (.createTable name) = .ok _)
        exact ⟨_, name :: made, rfl, trivial, h, List.cons_subset.2 ⟨hmakes.has, List.Subset.trans hmade hmakes.tables⟩⟩
      | createIndex name table =>
        obtain ⟨htable, h⟩ := Bool.and_eq_true_iff.1 h
        have htable' : s.tables.contains table = true := by simpa using hmade (by simpa using htable)
        by_cases hname : s.indexes.contains name
        · exact ⟨s, made, if_pos hname, trivial, h, hmade⟩
        · exact ⟨_, made, (if_neg hname).trans (if_pos htable'), trivial, h, hmade⟩
      | recordVersion version => cases h
    obtain ⟨t, ht, hversions⟩ := ih hrest hmade'
    refine ⟨t, ?_, hversions.trans ((makes_of_execute hs').versions_eq hrepeat)⟩
    rw [executeAll_cons, hs', Outcome.ok_bind, ht]

/-- To execute statements again from their beginning, after some of them, comes to executing them once. -/
theorem executeAll_resumed (h : founded made sts = true) {count : Nat} (ht : s.executeAll (sts.take count) = .ok t) :
    t.executeAll sts = s.executeAll sts := by
  have hagain : t.executeAll (sts.take count) = .ok t :=
    executeAll_of_has (isRepeatable_of_founded (founded_take h count)) (has_of_executeAll ht).2
  calc
    t.executeAll sts = t.executeAll (sts.take count ++ sts.drop count) := by rw [List.take_append_drop]
    _ = t.executeAll (sts.drop count) := by rw [executeAll_append, hagain, Outcome.ok_bind]
    _ = s.executeAll (sts.take count ++ sts.drop count) := by rw [executeAll_append, ht, Outcome.ok_bind]
    _ = s.executeAll sts := by rw [List.take_append_drop]

/-! ### Migrations in a row -/

/-- The statements of some migrations, each followed by the recording of its version. -/
private def upgrade (ms : List (Int × List Statement)) : List Statement :=
  ms.flatMap fun m => m.2 ++ [.recordVersion m.1]

/-- Some migrations can be run on a schema: versions can be recorded in it, theirs are not recorded yet, and they ascend
in what they make. -/
structure Ready (s : Schema) (ms : List (Int × List Statement)) : Prop where
  hasTable : versionTable ∈ s.tables
  unrecorded : ∀ m ∈ ms, m.1 ∉ s.versions
  ascending : ms.Pairwise (·.1 < ·.1)
  founded : ∀ m ∈ ms, founded [] m.2 = true

variable {m : Int × List Statement} {ms : List (Int × List Statement)}

/-- A migration is executed to its end, its version is recorded, and the migrations after it can be run. -/
private theorem Ready.exists_first (h : s.Ready (m :: ms)) :
    ∃ made next, s.executeAll m.2 = .ok made ∧ made.execute (.recordVersion m.1) = .ok next ∧
      next.versions = s.versions ++ [m.1] ∧ next.Ready ms := by
  obtain ⟨made, hmade, hversions⟩ := exists_executeAll (s := s) (h.founded m List.mem_cons_self) (List.nil_subset _)
  have htable : versionTable ∈ made.tables := (has_of_executeAll hmade).1 (.createTable versionTable) h.hasTable
  have hnew : m.1 ∉ made.versions := by
    rw [hversions]
    exact h.unrecorded m List.mem_cons_self
  refine ⟨made, _, hmade, execute_recordVersion htable hnew, by simp only [hversions], htable, fun m' hm' => ?_,
    h.ascending.tail, fun m' hm' => h.founded m' (List.mem_cons_of_mem m hm')⟩
  have hlt : m.1 < m'.1 := List.rel_of_pairwise_cons h.ascending hm'
  simp only [hversions, List.mem_append, List.mem_singleton, not_or]
  exact ⟨h.unrecorded m' (List.mem_cons_of_mem m hm'), hlt.ne'⟩

private theorem upgrade_cons : upgrade (m :: ms) = m.2 ++ .recordVersion m.1 :: upgrade ms := by
  rw [upgrade, List.flatMap_cons, List.append_assoc, upgrade]
  rfl

/-- Migrations are executed to their end. -/
private theorem Ready.exists_upgrade (h : s.Ready ms) :
    ∃ t, s.executeAll (upgrade ms) = .ok t ∧ t.versions = s.versions ++ ms.map Prod.fst := by
  induction ms generalizing s with
  | nil => exact ⟨s, rfl, (List.append_nil _).symm⟩
  | cons m ms ih =>
    obtain ⟨made, next, hmade, hnext, hversions, hready⟩ := h.exists_first
    obtain ⟨t, ht, hmore⟩ := ih hready
    refine ⟨t, ?_, by rw [hmore, hversions, List.map_cons, List.append_assoc, List.singleton_append]⟩
    rw [upgrade_cons, executeAll_append, hmade, Outcome.ok_bind, executeAll_cons, hnext, Outcome.ok_bind, ht]

/-- Migrations that are interrupted leave some of them recorded, and from there the others lead to the same end. -/
private theorem Ready.exists_part (h : s.Ready ms) (count : Nat) :
    ∃ t front back, s.executeAll ((upgrade ms).take count) = .ok t ∧ ms = front ++ back ∧
      t.versions = s.versions ++ front.map Prod.fst ∧ t.executeAll (upgrade back) = s.executeAll (upgrade ms) := by
  induction ms generalizing s count with
  | nil => exact ⟨s, [], [], by simp [upgrade, executeAll_nil], rfl, (List.append_nil _).symm, rfl⟩
  | cons m ms ih =>
    have hfounded := h.founded m List.mem_cons_self
    rw [upgrade_cons]
    by_cases hcount : count ≤ m.2.length
    · -- the first migration is not recorded, and starts again
      obtain ⟨t, ht, hversions⟩ := exists_executeAll (s := s) (founded_take hfounded count) (List.nil_subset _)
      refine ⟨t, [], m :: ms, by rw [List.take_append_of_le_length hcount, ht], rfl, by simpa using hversions, ?_⟩
      rw [upgrade_cons, executeAll_append, executeAll_append, executeAll_resumed hfounded ht]
    · obtain ⟨rest, rfl⟩ : ∃ rest, count = m.2.length + (rest + 1) := ⟨count - m.2.length - 1, by omega⟩
      obtain ⟨made, next, hmade, hnext, hversions, hready⟩ := h.exists_first
      obtain ⟨t, front, back, ht, rfl, hfront, hback⟩ := ih hready rest
      refine ⟨t, m :: front, back, ?_, rfl, ?_, ?_⟩
      · rw [List.take_length_add_append, List.take_succ_cons, executeAll_append, hmade, Outcome.ok_bind,
          executeAll_cons, hnext, Outcome.ok_bind, ht]
      · rw [hfront, hversions, List.map_cons, List.append_assoc, List.singleton_append]
      · rw [hback, executeAll_append, hmade, Outcome.ok_bind, executeAll_cons, hnext, Outcome.ok_bind]

/-! ### The versions recorded -/

private theorem currentVersion_eq (s : Schema) : s.currentVersion = s.versions.max?.getD 0 := by
  rw [currentVersion]
  cases s.versions <;> rfl

private theorem le_currentVersion {v : Int} (h : v ∈ s.versions) : v ≤ s.currentVersion := by
  obtain ⟨w, hw⟩ := Option.ne_none_iff_exists'.1 (mt List.max?_eq_none_iff.1 (List.ne_nil_of_mem h))
  rw [currentVersion_eq, hw, Option.getD_some]
  exact (List.max?_eq_some_iff.1 hw).2 v h

private theorem currentVersion_mem (s : Schema) :
    s.currentVersion ∈ s.versions ∨ s.versions = [] ∧ s.currentVersion = 0 := by
  rw [currentVersion_eq]
  cases hmax : s.versions.max? with
  | none => exact .inr ⟨List.max?_eq_none_iff.1 hmax, rfl⟩
  | some w => exact .inl (List.max?_eq_some_iff.1 hmax).1

/-- A version above zero is above the current one when it is above all that are recorded. -/
private theorem currentVersion_lt_iff {v : Int} (hv : 0 < v) : s.currentVersion < v ↔ ∀ p ∈ s.versions, p < v := by
  constructor
  · intro h p hp
    exact (le_currentVersion hp).trans_lt h
  · intro h
    rcases s.currentVersion_mem with hmem | ⟨-, hzero⟩
    · exact h _ hmem
    · rwa [hzero]

/-- Every version recorded is one of 32 bits. -/
def Readable (s : Schema) : Prop := ∀ v ∈ s.versions, -2147483648 ≤ v ∧ v ≤ 2147483647

private theorem Readable.readVersion_eq (h : s.Readable) : s.readVersion = .ok s.currentVersion := by
  have hbounds : -2147483648 ≤ s.currentVersion ∧ s.currentVersion ≤ 2147483647 := by
    rcases s.currentVersion_mem with hmem | ⟨-, hzero⟩
    · exact h _ hmem
    · omega
  rw [readVersion, if_neg (by omega), if_neg (by omega)]

/-! ### What is left to do -/

/-- The migrations above the current version. -/
private def ahead (s : Schema) : List (Int × List Statement) := migrations.filter fun m => s.currentVersion < m.1

private theorem pendingStatements_eq (s : Schema) :
    s.pendingStatements = .createTable versionTable :: upgrade s.ahead := rfl

private theorem ascending_migrations : migrations.Pairwise (·.1 < ·.1) := by decide

private theorem founded_migrations : ∀ m ∈ migrations, founded [] m.2 = true := by decide

private theorem versions_migrations : ∀ m ∈ migrations, 0 < m.1 ∧ m.1 ≤ targetVersion := by decide

private theorem mem_ahead_iff : m ∈ s.ahead ↔ m ∈ migrations ∧ ∀ p ∈ s.versions, p < m.1 := by
  rw [ahead, List.mem_filter, decide_eq_true_iff]
  exact and_congr_right fun hm => currentVersion_lt_iff (versions_migrations m hm).1

private theorem ascending_ahead (s : Schema) : s.ahead.Pairwise (·.1 < ·.1) := ascending_migrations.filter _

private theorem ready_ahead (htable : versionTable ∈ s.tables) : s.Ready s.ahead :=
  ⟨htable, fun _ hm hrecorded => lt_irrefl _ ((mem_ahead_iff.1 hm).2 _ hrecorded), s.ascending_ahead,
    fun m hm => founded_migrations m (mem_ahead_iff.1 hm).1⟩

/-- Once some of the migrations ahead are recorded, the others are ahead. -/
private theorem ahead_of_versions {front back : List (Int × List Statement)} (hsplit : s.ahead = front ++ back)
    (hversions : t.versions = s.versions ++ front.map Prod.fst) : t.ahead = back := by
  have hascending : (front ++ back).Pairwise (·.1 < ·.1) := hsplit ▸ s.ascending_ahead
  have hahead : t.ahead = s.ahead.filter fun m => ∀ f ∈ front, f.1 < m.1 := by
    rw [ahead, ahead, List.filter_filter]
    refine List.filter_congr fun m hm => ?_
    have hpositive := (versions_migrations m hm).1
    rw [Bool.eq_iff_iff, Bool.and_eq_true, decide_eq_true_iff, decide_eq_true_iff, decide_eq_true_iff,
      currentVersion_lt_iff hpositive, currentVersion_lt_iff hpositive, hversions, List.forall_mem_append,
      List.forall_mem_map, and_comm]
  have hfront : (front.filter fun m => ∀ f ∈ front, f.1 < m.1) = [] :=
    List.filter_eq_nil_iff.2 fun m hm h => lt_irrefl _ (of_decide_eq_true h m hm)
  have hback : (back.filter fun m => ∀ f ∈ front, f.1 < m.1) = back :=
    List.filter_eq_self.2 fun m hm => decide_eq_true fun f hf => (List.pairwise_append.1 hascending).2.2 f hf m hm
  rw [hahead, hsplit, List.filter_append, hfront, hback, List.nil_append]

/-- A run first makes the table in which versions are recorded. -/
private theorem exists_versionTable (s : Schema) :
    ∃ t, s.execute (.createTable versionTable) = .ok t ∧ versionTable ∈ t.tables ∧ t.versions = s.versions ∧
      t.ahead = s.ahead := by
  have hmakes := makes_of_execute (rfl : s.execute (.createTable versionTable) = .ok _)
  have hversions := hmakes.versions_eq trivial
  exact ⟨_, rfl, hmakes.has, hversions, ahead_of_versions (List.nil_append _).symm (by rw [hversions]; simp)⟩

/-- The statements of a run on a schema in which versions can be recorded. -/
private theorem executeAll_pendingStatements (htable : versionTable ∈ s.tables) :
    s.executeAll s.pendingStatements = s.executeAll (upgrade s.ahead) := by
  have hthere : s.execute (.createTable versionTable) = .ok s := execute_of_has trivial htable
  rw [pendingStatements_eq, executeAll_cons, hthere, Outcome.ok_bind]

/-! ### Interrupted runs -/

/-- A schema that some runs have led to: a further run comes to what it would have come to before them, and no versions
are recorded but those of the migrations. -/
structure LedTo (s t : Schema) : Prop where
  executeAll_eq : t.executeAll t.pendingStatements = s.executeAll s.pendingStatements
  versions : ∀ v ∈ t.versions, v ∈ s.versions ∨ v ∈ migrations.map Prod.fst

private theorem LedTo.refl (s : Schema) : s.LedTo s := ⟨rfl, fun _ => .inl⟩

private theorem LedTo.trans {u : Schema} (h : s.LedTo t) (h' : t.LedTo u) : s.LedTo u :=
  ⟨h'.executeAll_eq.trans h.executeAll_eq, fun v hv => (h'.versions v hv).elim (h.versions v) .inr⟩

/-- The versions of the migrations have 32 bits. -/
private theorem Readable.of_versions (hs : s.Readable)
    (h : ∀ v ∈ t.versions, v ∈ s.versions ∨ v ∈ migrations.map Prod.fst) : t.Readable := by
  intro v hv
  rcases h v hv with hold | hnew
  · exact hs v hold
  · obtain ⟨m, hm, rfl⟩ := List.mem_map.1 hnew
    have hbounds := versions_migrations m hm
    rw [targetVersion] at hbounds
    omega

/-- An interrupted run leaves the same end to come to. -/
private theorem exists_migrateInterrupted (s : Schema) (count : Nat) :
    ∃ t, s.migrateInterrupted count = .ok t ∧ s.LedTo t := by
  cases count with
  | zero => exact ⟨s, rfl, .refl s⟩
  | succ count =>
    obtain ⟨s', hs', htable, hversions, hahead⟩ := s.exists_versionTable
    obtain ⟨t, front, back, ht, hsplit, hmore, hback⟩ := (ready_ahead htable).exists_part count
    have htable' : versionTable ∈ t.tables := (has_of_executeAll ht).1 (.createTable versionTable) htable
    refine ⟨t, ?_, ?_, fun v hv => ?_⟩
    · rw [migrateInterrupted, pendingStatements_eq, List.take_succ_cons, executeAll_cons, hs', Outcome.ok_bind,
        ← hahead, ht]
    · rw [executeAll_pendingStatements htable', ahead_of_versions hsplit hmore, hback, hahead, pendingStatements_eq,
        executeAll_cons, hs', Outcome.ok_bind]
    · rw [hmore, hversions, List.mem_append] at hv
      refine hv.imp_right fun hnew => ?_
      obtain ⟨m, hm, rfl⟩ := List.mem_map.1 hnew
      have hmem : m ∈ s'.ahead := hsplit ▸ List.mem_append_left back hm
      exact List.mem_map_of_mem (mem_ahead_iff.1 hmem).1

/-- Runs of the migrations one after the other, each of which stops after a number of its statements. -/
def attempts (s : Schema) (stops : List Nat) : Except SchemaFault Schema := stops.foldlM migrateInterrupted s

private theorem exists_attempts (s : Schema) (stops : List Nat) : ∃ t, s.attempts stops = .ok t ∧ s.LedTo t := by
  induction stops generalizing s with
  | nil => exact ⟨s, rfl, .refl s⟩
  | cons count stops ih =>
    obtain ⟨s', hs', hled⟩ := s.exists_migrateInterrupted count
    obtain ⟨t, ht, hmore⟩ := ih s'
    refine ⟨t, ?_, hled.trans hmore⟩
    rw [attempts, List.foldlM_cons, hs', Outcome.ok_bind]
    exact ht

/-! ### Complete runs -/

private theorem migrate_eq (h : s.Readable) : s.migrate = s.executeAll s.pendingStatements := by
  rw [migrate, h.readVersion_eq, Outcome.ok_bind]

/-- A run is executed to its end: versions can be recorded then, those of the migrations ahead are, and what these make
is there. -/
private theorem exists_migrate (h : s.Readable) :
    ∃ t, s.migrate = .ok t ∧ versionTable ∈ t.tables ∧ t.versions = s.versions ++ s.ahead.map Prod.fst ∧
      ∀ m ∈ s.ahead, ∀ st ∈ m.2, t.Has st := by
  obtain ⟨s', hs', htable, hversions, hahead⟩ := s.exists_versionTable
  obtain ⟨t, ht, hmore⟩ := (ready_ahead htable).exists_upgrade
  obtain ⟨hkeeps, hleaves⟩ := has_of_executeAll ht
  refine ⟨t, ?_, hkeeps (.createTable versionTable) htable, by rw [hmore, hversions, hahead], fun m hm st hst => ?_⟩
  · rw [migrate_eq h, pendingStatements_eq, executeAll_cons, hs', Outcome.ok_bind, ← hahead, ht]
  · exact hleaves st (List.mem_flatMap.2 ⟨m, hahead ▸ hm, List.mem_append_left _ hst⟩)

/-- What a run makes of a schema. -/
structure MigratesTo (s t : Schema) : Prop where
  migrate_eq : s.migrate = .ok t
  mem_versions_iff : ∀ v, v ∈ t.versions ↔ v ∈ s.versions ∨ v ∈ [1, 2, 3] ∧ ∀ p ∈ 0 :: s.versions, p < v
  /-- No version is recorded twice. -/
  nodup : s.versions.Nodup → t.versions.Nodup
  /-- The tables and the indexes of every migration that has been run are there. -/
  has : ∀ m ∈ migrations, (∀ p ∈ s.versions, p < m.1) → ∀ st ∈ m.2, t.Has st
  status : ∃ current, IsGreatest {v | v = 3 ∨ v ∈ s.versions} current ∧ t.status = .ok (⟨current, 3, false⟩, t)
  /-- Further runs change nothing, whether they are interrupted or not. -/
  again : t.migrate = .ok t ∧ ∀ stops, t.attempts stops = .ok t

private theorem isGreatest_currentVersion (hversions : t.versions = s.versions ++ s.ahead.map Prod.fst) :
    IsGreatest {v | v = targetVersion ∨ v ∈ s.versions} t.currentVersion := by
  have htarget : targetVersion ≤ t.currentVersion := by
    by_cases hlt : ∀ p ∈ s.versions, p < targetVersion
    · refine le_currentVersion (hversions ▸ List.mem_append_right _ ?_)
      exact List.mem_map.2 ⟨(targetVersion, searchStatements), mem_ahead_iff.2 ⟨by simp [migrations, targetVersion], hlt⟩,
        rfl⟩
    · obtain ⟨p, hp, hle⟩ : ∃ p ∈ s.versions, targetVersion ≤ p := by simpa using hlt
      exact hle.trans (le_currentVersion (hversions ▸ List.mem_append_left _ hp))
  refine ⟨?_, ?_⟩
  · rcases t.currentVersion_mem with hmem | ⟨-, hzero⟩
    · rw [hversions, List.mem_append] at hmem
      refine hmem.symm.imp_left fun hnew => ?_
      obtain ⟨m, hm, hcurrent⟩ := List.mem_map.1 hnew
      have hle := (versions_migrations m (mem_ahead_iff.1 hm).1).2
      exact le_antisymm (hcurrent ▸ hle) htarget
    · rw [hzero] at htarget
      exact absurd htarget (by decide)
  · rintro v (rfl | hv)
    · exact htarget
    · exact le_currentVersion (hversions ▸ List.mem_append_left _ hv)

/-- The statements of a run with nothing ahead change nothing. -/
private theorem executeAll_of_ahead_eq_nil (htable : versionTable ∈ t.tables) (hahead : t.ahead = []) (count : Nat) :
    t.executeAll (t.pendingStatements.take count) = .ok t := by
  have hstatements : ∀ st ∈ t.pendingStatements.take count, st = .createTable versionTable := by
    intro st hst
    rw [pendingStatements_eq, hahead] at hst
    exact List.mem_singleton.1 (List.mem_of_mem_take hst)
  refine executeAll_of_has (fun st hst => ?_) fun st hst => ?_
  · rw [hstatements st hst]
    trivial
  · rw [hstatements st hst]
    exact htable

/-- With nothing ahead no run changes anything. -/
private theorem again_of_ahead_eq_nil (hreadable : t.Readable) (htable : versionTable ∈ t.tables)
    (hahead : t.ahead = []) : t.migrate = .ok t ∧ ∀ stops, t.attempts stops = .ok t := by
  have hrun := executeAll_of_ahead_eq_nil htable hahead
  constructor
  · rw [migrate_eq hreadable, ← List.take_length (l := t.pendingStatements)]
    exact hrun _
  · intro stops
    induction stops with
    | nil => rfl
    | cons count stops ih =>
      rw [attempts, List.foldlM_cons, migrateInterrupted, hrun count, Outcome.ok_bind]
      exact ih

private theorem mem_versions_ahead_iff {v : Int} :
    v ∈ s.ahead.map Prod.fst ↔ v ∈ migrations.map Prod.fst ∧ ∀ p ∈ 0 :: s.versions, p < v := by
  rw [List.forall_mem_cons]
  constructor
  · intro h
    obtain ⟨m, hm, rfl⟩ := List.mem_map.1 h
    obtain ⟨hmigration, hnew⟩ := mem_ahead_iff.1 hm
    exact ⟨List.mem_map_of_mem hmigration, (versions_migrations m hmigration).1, hnew⟩
  · rintro ⟨h, -, hnew⟩
    obtain ⟨m, hm, rfl⟩ := List.mem_map.1 h
    exact List.mem_map_of_mem (mem_ahead_iff.2 ⟨hm, hnew⟩)

private theorem exists_migratesTo (h : s.Readable) : ∃ t, s.MigratesTo t := by
  obtain ⟨t, ht, htable, hversions, hhas⟩ := exists_migrate h
  have hmem : ∀ v, v ∈ t.versions ↔ v ∈ s.versions ∨ v ∈ migrations.map Prod.fst ∧ ∀ p ∈ 0 :: s.versions, p < v := by
    intro v
    rw [hversions, List.mem_append, mem_versions_ahead_iff]
  have hreadable : t.Readable := h.of_versions fun v hv => ((hmem v).1 hv).imp_right And.left
  have hahead : t.ahead = [] := ahead_of_versions (List.append_nil _).symm hversions
  have hthere : t.execute (.createTable versionTable) = .ok t := execute_of_has trivial htable
  have hgreatest := isGreatest_currentVersion hversions
  refine ⟨t, ht, hmem, fun hnodup => ?_, fun m hm hnew => hhas m (mem_ahead_iff.2 ⟨hm, hnew⟩),
    ⟨t.currentVersion, hgreatest, ?_⟩, again_of_ahead_eq_nil hreadable htable hahead⟩
  · have hascending : (s.ahead.map Prod.fst).Nodup := List.Pairwise.map _ (fun _ _ => ne_of_lt) s.ascending_ahead
    rw [hversions]
    refine List.nodup_append.2 ⟨hnodup, hascending, fun v hold w hnew => ?_⟩
    exact ((mem_versions_ahead_iff.1 hnew).2 v (List.mem_cons_of_mem 0 hold)).ne
  · have hlast : decide (t.currentVersion < targetVersion) = false := decide_eq_false (hgreatest.2 (.inl rfl)).not_gt
    rw [status, hthere, Outcome.ok_bind, hreadable.readVersion_eq, Outcome.ok_bind, hlast]
    rfl

/-- The migrations of a schema whose versions have 32 bits, after runs that have stopped anywhere.

* Whatever versions had been recorded, no run fails, and a complete run after those that have stopped comes to what a
  single one would have come to: the same tables, indexes and versions.
* To the versions recorded before it adds those of the migrations that are above all of them, each once.
* The current version is then the greatest of these and of the version that the migrations lead to, none is needed any
  more, and further runs change nothing. -/
theorem migrate_after_interruptions (h : s.Readable) (stops : List Nat) :
    ∃ reached t, s.attempts stops = .ok reached ∧ reached.migrate = .ok t ∧ s.MigratesTo t := by
  obtain ⟨t, ht⟩ := exists_migratesTo h
  obtain ⟨reached, hreached, hled⟩ := s.exists_attempts stops
  refine ⟨reached, t, hreached, ?_, ht⟩
  rw [migrate_eq (h.of_versions hled.versions), hled.executeAll_eq, ← migrate_eq h, ht.migrate_eq]

/-- Some users, but no channels, are known to a schema with versions from elsewhere. -/
private def foreignSchema : Schema where
  tables := ["users", versionTable]
  versions := [-7, 1]

/-- Versions from elsewhere, and runs that stop among the tables, at once, and behind the second version. -/
theorem migrate_after_interruptions_foreign :
    ∃ reached t, foreignSchema.attempts [5, 0, 13] = .ok reached ∧ reached.versions = [-7, 1, 2] ∧
      reached.migrate = .ok t ∧ foreignSchema.migrate = .ok t ∧ t.versions = [-7, 1, 2, 3] ∧
      t.status = .ok (⟨3, 3, false⟩, t) := by
  have hreadable : foreignSchema.Readable := by simp [Readable, foreignSchema]
  obtain ⟨reached, t, hreached, ht, hmigrates⟩ := migrate_after_interruptions hreadable [5, 0, 13]
  have hsecond : (foreignSchema.attempts [5, 0, 13]).map versions = .ok [-7, 1, 2] := rfl
  have hall : foreignSchema.migrate.map versions = .ok [-7, 1, 2, 3] := rfl
  rw [hreached] at hsecond
  rw [hmigrates.migrate_eq] at hall
  obtain ⟨current, hcurrent, hstatus⟩ := hmigrates.status
  obtain rfl : current = 3 := by
    rcases hcurrent.1 with rfl | hforeign
    · rfl
    · have hthree := hcurrent.2 (.inl rfl)
      simp only [foreignSchema, List.mem_cons, List.not_mem_nil, or_false] at hforeign
      omega
  exact ⟨reached, t, hreached, Except.ok.inj hsecond, ht, hmigrates.migrate_eq, Except.ok.inj hall, hstatus⟩

end Schema

end WorkspaceSearch
