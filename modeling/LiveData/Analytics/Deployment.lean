import LiveData.Analytics.Lockstep
import LiveData.Analytics.MigrationSteps
import LiveData.Analytics.ViewTableMetadata

/-!
# A deployment over its migrations

The schema is migrated up and down between the calls of the view table service. Which
relations the migrations left depends on the revision alone, and which commands go through on
the saved views.
-/

namespace LiveData.Analytics

open Sql

/-! ## Commands -/

variable {host : MigrationHost} {env : MigrationEnvironment} {s : Schema}

/-- The statements are known and the server refuses none of them. -/
def MigrationEnvironment.Permits (env : MigrationEnvironment)
    (statements : Except Str (List MigrationStatement)) : Prop :=
  ∃ known, statements = .ok known ∧ ∀ statement ∈ known, env.refuses statement = false

theorem migrateTo_eq_some {revision : Nat} {statements : Except Str (List MigrationStatement)}
    {u : Schema} : s.migrateTo env revision statements = some u ↔
      env.Permits statements ∧ ∃ known t, statements = .ok known ∧
        run Schema.execute s known = some t ∧ u = { t with revision := revision } := by
  unfold Schema.migrateTo MigrationEnvironment.Permits
  cases statements with
  | error e => simp
  | ok known =>
    simp only [Schema.run_perform, Option.map_eq_some_iff, Option.ite_none_right_eq_some,
      Except.ok.injEq]
    constructor
    · rintro ⟨t, ⟨hp, ht⟩, rfl⟩
      exact ⟨⟨known, rfl, hp⟩, known, t, rfl, ht, rfl⟩
    · rintro ⟨⟨known', rfl, hp⟩, known, t, rfl, ht, rfl⟩
      exact ⟨t, ⟨hp, ht⟩, rfl⟩

/-- The next revision keeps the deployment. -/
theorem Deployed.upgraded {t : Schema} (hs : Deployed s) (hr : s.revision < 4)
    (h : Upgraded s t) : Deployed { t with revision := s.revision + 1 } where
  revision_le := hr
  nodup := by
    rw [← keys_outline, h.outline_eq, ← outline_append, keys_outline, Dict.keys_append]
    exact hs.nodup_append hr
  shapes name hname := by
    rw [h.outline_eq, applied, outline_append, List.lookup_append, List.lookup_append,
      hs.shapes name hname]
  views name hname relation hl := hs.views name hname relation (h.kept name hname ▸ hl)
  saved name hname := by
    rw [h.rows, hs.rows hr] at hname
    simp at hname
  distinct := by rw [h.rows]; exact hs.distinct
  rows _ := h.rows.trans (hs.rows hr)
  indexes := h.indexes

/-- Undoing the last revision leaves no row. -/
theorem Undone.rows_eq_nil {t : Schema} {revision : Nat} (h : Undone revision s t)
    (hs : Deployed s) (hr : s.revision = revision + 1) : t.database.viewTables = [] := by
  have hle := hs.revision_le
  rw [h.rows]
  split
  · rfl
  · next hne => exact hs.rows (by omega)

/-- Undoing the last revision keeps the deployment. -/
theorem Deployed.undone {t : Schema} {revision : Nat} (hs : Deployed s)
    (hr : s.revision = revision + 1) (h : Undone revision s t) :
    Deployed { t with revision := revision } where
  revision_le := by
    have hle := hs.revision_le
    exact (Nat.le_succ revision).trans (hr.symm.trans_le hle)
  nodup := by
    have hnodup := hs.nodup
    rw [← keys_outline] at hnodup ⊢
    rw [h.outline_eq]
    exact hnodup.sublist (List.filter_sublist.map Prod.fst)
  shapes name hname := by
    have hlt : revision < 4 := hr.symm.trans_le hs.revision_le
    have hkept := Dict.lookup_filter_key
      (fun other => decide (other ∉ Dict.keys (createdBy revision))) (outline s.database.relations)
      name
    rw [h.outline_eq, hkept, hs.shapes name hname, hr, applied, outline_append, List.lookup_append]
    by_cases hc : name ∈ Dict.keys (createdBy revision)
    · rw [if_neg (by simp [hc]), lookup_applied_of_created hlt hc]
    · have hnone : (outline (createdBy revision)).lookup name = none := by
        rwa [Dict.lookup_eq_none_iff, keys_outline]
      rw [if_pos (by simp [hc]), hnone, Option.or_none]
  views name hname relation hl := hs.views name hname relation (h.kept name hname ▸ hl)
  saved name hname := by
    rw [h.rows_eq_nil hs hr] at hname
    simp at hname
  distinct := by rw [h.rows_eq_nil hs hr]; exact List.nodup_nil
  rows _ := h.rows_eq_nil hs hr
  indexes := h.indexes

/-- A saved view blocks what it reads as long as saved views are kept. -/
theorem Deployed.blocked_congr {t : Schema} (hs : Deployed s) (ht : Deployed t)
    (hkept : ∀ name ∉ protectedRelations,
      t.database.relations.lookup name = s.database.relations.lookup name) {name : Str} :
    t.Blocked name ↔ s.Blocked name := by
  have hmem : ∀ item : Str × StoredRelation, item.1 ∉ protectedRelations →
      (item ∈ t.database.relations ↔ item ∈ s.database.relations) := by
    intro item hp
    rw [← Dict.lookup_eq_some_iff ht.nodup, ← Dict.lookup_eq_some_iff hs.nodup, hkept item.1 hp]
  constructor
  · rintro ⟨item, hm, hp, hb⟩
    exact ⟨item, (hmem item hp).mp hm, hp, hb⟩
  · rintro ⟨item, hm, hp, hb⟩
    exact ⟨item, (hmem item hp).mpr hm, hp, hb⟩

/-- One revision up goes through when its statements may run. -/
theorem Deployed.upgradeOnce_isSome (hs : Deployed s) :
    (s.upgradeOnce host env).isSome = true ↔
      s.revision < 4 ∧ env.Permits (upgradeStatements host env.rawUrl s.revision) := by
  unfold Schema.upgradeOnce
  by_cases hr : s.revision < 4
  · rw [if_pos hr, Option.isSome_iff_exists]
    constructor
    · rintro ⟨u, hu⟩
      exact ⟨hr, (migrateTo_eq_some.mp hu).1⟩
    · rintro ⟨-, hp⟩
      obtain ⟨known, hknown, -⟩ := id hp
      obtain ⟨t, ht, -⟩ := hs.exists_run_upgrade hr hknown
      exact ⟨_, migrateTo_eq_some.mpr ⟨hp, known, t, hknown, ht, rfl⟩⟩
  · simp [hr]

/-- One revision up keeps the deployment and the saved views. -/
theorem Deployed.of_upgradeOnce {u : Schema} (hs : Deployed s)
    (h : s.upgradeOnce host env = some u) :
    Deployed u ∧ u.revision = s.revision + 1 ∧ ∀ name ∉ protectedRelations,
      u.database.relations.lookup name = s.database.relations.lookup name := by
  unfold Schema.upgradeOnce at h
  split at h
  · next hr =>
    obtain ⟨-, known, t, hknown, ht, rfl⟩ := migrateTo_eq_some.mp h
    obtain ⟨t', ht', hup⟩ := hs.exists_run_upgrade hr hknown
    obtain rfl := Option.some.inj (ht.symm.trans ht')
    exact ⟨hs.upgraded hr hup, rfl, hup.kept⟩
  · simp at h

/-- One revision down goes through when its statements may run and it can be undone. -/
theorem Deployed.downgradeOnce_isSome (hs : Deployed s) {revision : Nat}
    (hr : s.revision = revision + 1) : (s.downgradeOnce host env).isSome = true ↔
      env.Permits (downgradeStatements host env.rawUrl revision) ∧
        Undoable host env.rawUrl s revision := by
  simp only [Schema.downgradeOnce, hr, Option.isSome_iff_exists, migrateTo_eq_some]
  constructor
  · rintro ⟨u, hp, known, t, hknown, ht, -⟩
    obtain ⟨t', -, hrun⟩ := hs.exists_run_downgrade hr hknown
    exact ⟨hp, ((hrun t).mp ht).1⟩
  · rintro ⟨hp, hu⟩
    obtain ⟨known, hknown, -⟩ := id hp
    obtain ⟨t, -, hrun⟩ := hs.exists_run_downgrade hr hknown
    exact ⟨_, hp, known, t, hknown, (hrun t).mpr ⟨hu, rfl⟩, rfl⟩

/-- One revision down keeps the deployment, the saved views and the roles. -/
theorem Deployed.of_downgradeOnce {u : Schema} (hs : Deployed s)
    (h : s.downgradeOnce host env = some u) :
    Deployed u ∧ s.revision = u.revision + 1 ∧ u.roles = s.roles ∧
      ∀ name ∉ protectedRelations,
        u.database.relations.lookup name = s.database.relations.lookup name := by
  unfold Schema.downgradeOnce at h
  split at h
  · simp at h
  · next revision hr =>
    obtain ⟨-, known, t, hknown, ht, rfl⟩ := migrateTo_eq_some.mp h
    obtain ⟨t', hundone, hrun⟩ := hs.exists_run_downgrade hr hknown
    obtain rfl := ((hrun t).mp ht).2
    exact ⟨hs.undone hr hundone, hr, hundone.roles, hundone.kept⟩

/-- Several revisions up go through when the statements of each may run. -/
theorem Deployed.upgrade_isSome (hs : Deployed s) (count : Nat) :
    (s.upgrade host env count).isSome = true ↔ s.revision + count ≤ 4 ∧
      ∀ k < count, env.Permits (upgradeStatements host env.rawUrl (s.revision + k)) := by
  induction count generalizing s with
  | zero => exact iff_of_true rfl ⟨hs.revision_le, fun k hk => absurd hk (Nat.not_lt_zero k)⟩
  | succ count ih =>
    have honce := @Deployed.upgradeOnce_isSome host env s hs
    rw [Schema.upgrade, Nat.forall_lt_succ_left]
    simp only [Nat.add_zero]
    cases hu : s.upgradeOnce host env with
    | none =>
      rw [hu] at honce
      refine iff_of_false Bool.false_ne_true ?_
      rintro ⟨hle, hp, -⟩
      have hlt : s.revision < 4 := by omega
      exact Bool.false_ne_true (honce.mpr ⟨hlt, hp⟩)
    | some u =>
      obtain ⟨hdeployed, hrev, -⟩ := hs.of_upgradeOnce hu
      have hfirst := (honce.mp (hu ▸ rfl)).2
      simp only [Option.bind_some, ih hdeployed, hrev, hfirst, true_and, Nat.add_assoc,
        Nat.add_comm 1]

/-- Several revisions up keep the deployment and the saved views. -/
theorem Deployed.of_upgrade {u : Schema} (hs : Deployed s) {count : Nat}
    (h : s.upgrade host env count = some u) :
    Deployed u ∧ u.revision = s.revision + count ∧ ∀ name ∉ protectedRelations,
      u.database.relations.lookup name = s.database.relations.lookup name := by
  induction count generalizing s with
  | zero =>
    obtain rfl := Option.some.inj h
    exact ⟨hs, rfl, fun _ _ => rfl⟩
  | succ count ih =>
    obtain ⟨t, ht, hu⟩ := Option.bind_eq_some_iff.mp h
    obtain ⟨hdeployed, hrev, hkept⟩ := hs.of_upgradeOnce ht
    obtain ⟨hdeployed', hrev', hkept'⟩ := ih hdeployed hu
    refine ⟨hdeployed', by omega, fun name hname => ?_⟩
    rw [hkept' name hname, hkept name hname]

/-- Whether a revision can be undone does not change when later ones are undone. -/
theorem Deployed.undoable_congr {t : Schema} (hs : Deployed s) (ht : Deployed t)
    (hroles : t.roles = s.roles) (hkept : ∀ name ∉ protectedRelations,
      t.database.relations.lookup name = s.database.relations.lookup name)
    {rawUrl : Option Str} {revision : Nat} :
    Undoable host rawUrl t revision ↔ Undoable host rawUrl s revision := by
  have hblocked : ∀ name, t.Blocked name ↔ s.Blocked name := fun _ => hs.blocked_congr ht hkept
  constructor
  · exact fun h => ⟨fun name hn => (hblocked name).not.mp (h.unread name hn),
      hroles ▸ h.role_exists⟩
  · exact fun h => ⟨fun name hn => (hblocked name).not.mpr (h.unread name hn),
      hroles.symm ▸ h.role_exists⟩

/-- Several revisions down go through when the statements of each may run and each can be
undone. -/
theorem Deployed.downgrade_isSome (hs : Deployed s) (count : Nat) :
    (s.downgrade host env count).isSome = true ↔ count ≤ s.revision ∧
      ∀ revision < s.revision, s.revision ≤ revision + count →
        env.Permits (downgradeStatements host env.rawUrl revision) ∧
          Undoable host env.rawUrl s revision := by
  induction count generalizing s with
  | zero =>
    refine iff_of_true rfl ⟨Nat.zero_le _, fun revision hlt hle => ?_⟩
    exact absurd hle (Nat.not_le.mpr hlt)
  | succ count ih =>
    rw [Schema.downgrade]
    cases hr : s.revision with
    | zero => simp [Schema.downgradeOnce, hr]
    | succ last =>
      have honce := @Deployed.downgradeOnce_isSome host env s hs last hr
      simp only [Nat.forall_lt_succ_right, Nat.add_le_add_iff_right, ← Nat.add_assoc,
        Nat.le_add_right, true_imp_iff]
      cases hu : s.downgradeOnce host env with
      | none =>
        rw [hu] at honce
        exact iff_of_false Bool.false_ne_true fun h => Bool.false_ne_true (honce.mpr h.2.2)
      | some u =>
        obtain ⟨hdeployed, hrev, hroles, hkept⟩ := hs.of_downgradeOnce hu
        obtain rfl : last = u.revision := by omega
        have hfirst := honce.mp (hu ▸ rfl)
        have hundoable := fun revision => @Deployed.undoable_congr host s u hs hdeployed hroles
          hkept env.rawUrl revision
        simp only [Option.bind_some, ih hdeployed, hfirst, hundoable, and_self, and_true]

/-- Several revisions down keep the deployment and the saved views. -/
theorem Deployed.of_downgrade {u : Schema} (hs : Deployed s) {count : Nat}
    (h : s.downgrade host env count = some u) :
    Deployed u ∧ s.revision = u.revision + count ∧ ∀ name ∉ protectedRelations,
      u.database.relations.lookup name = s.database.relations.lookup name := by
  induction count generalizing s with
  | zero =>
    obtain rfl := Option.some.inj h
    exact ⟨hs, rfl, fun _ _ => rfl⟩
  | succ count ih =>
    obtain ⟨t, ht, hu⟩ := Option.bind_eq_some_iff.mp h
    obtain ⟨hdeployed, hrev, -, hkept⟩ := hs.of_downgradeOnce ht
    obtain ⟨hdeployed', hrev', hkept'⟩ := ih hdeployed hu
    refine ⟨hdeployed', by omega, fun name hname => ?_⟩
    rw [hkept' name hname, hkept name hname]

/-! ## Calls -/

namespace Database

variable {db t : Database} {name : Str}

theorem nodup_keys_createOrReplaceView {body : ViewBody} {columns : List (Str × Str)}
    (hn : (Dict.keys db.relations).Nodup)
    (h : db.createOrReplaceView name body columns = some t) : (Dict.keys t.relations).Nodup := by
  unfold createOrReplaceView at h
  split at h
  · split at h
    · obtain rfl := Option.some.inj h
      exact Dict.nodup_keys_set hn _ _
    · simp at h
    · split at h
      · obtain rfl := Option.some.inj h
        exact Dict.nodup_keys_set hn _ _
      · simp at h
  · simp at h

theorem nodup_keys_grantSelect {grantee : Str} (hn : (Dict.keys db.relations).Nodup)
    (h : db.grantSelect name grantee = some t) : (Dict.keys t.relations).Nodup := by
  obtain ⟨relation, -, rfl⟩ := Option.map_eq_some_iff.mp h
  exact Dict.nodup_keys_set hn _ _

theorem nodup_keys_dropViewIfExists (hn : (Dict.keys db.relations).Nodup)
    (h : db.dropViewIfExists name = some t) : (Dict.keys t.relations).Nodup := by
  unfold dropViewIfExists at h
  split at h
  · obtain rfl := Option.some.inj h
    exact hn
  · simp at h
  · split at h
    · simp at h
    · obtain rfl := Option.some.inj h
      exact Dict.nodup_keys_erase hn _

end Database

namespace ViewTableService

open PostgresAnalyticsQueryRepository

variable {service : ViewTableHost} {db t : Database}

theorem nodup_keys_createTransaction {faults : Faults} {name description sourceSql : Str}
    {viewTables : List AnalyticsViewTable} (hn : (Dict.keys db.relations).Nodup)
    (h : createTransaction service faults db name description sourceSql = .ok (viewTables, t)) :
    (Dict.keys t.relations).Nodup := by
  simp only [createTransaction, bind_eq_ok, attempt_eq_ok, Option.some.injEq] at h
  obtain ⟨created, ⟨-, hcreated⟩, granted, ⟨-, hgranted⟩, saved, ⟨-, rfl⟩, loaded, ⟨-, rfl⟩, -,
      h⟩ := h
  obtain ⟨rfl, rfl⟩ := Prod.mk.inj h
  obtain ⟨sent, -, hcreated⟩ := Option.bind_eq_some_iff.mp hcreated
  obtain ⟨columns, -, hcreated⟩ := Option.bind_eq_some_iff.mp hcreated
  obtain ⟨sent', -, hgranted⟩ := Option.bind_eq_some_iff.mp hgranted
  have hcreated' := Database.nodup_keys_createOrReplaceView hn hcreated
  have hgranted' := Database.nodup_keys_grantSelect hcreated' hgranted
  exact hgranted'

theorem nodup_keys_deleteTransaction {faults : Faults} {name : Str}
    (hn : (Dict.keys db.relations).Nodup)
    (h : deleteTransaction service faults db name = .ok t) : (Dict.keys t.relations).Nodup := by
  simp only [deleteTransaction, bind_eq_ok, attempt_eq_ok, Option.some.injEq] at h
  obtain ⟨dropped, ⟨-, hdropped⟩, deleted, ⟨-, rfl⟩, -, rfl⟩ := h
  obtain ⟨sent, -, hdropped⟩ := Option.bind_eq_some_iff.mp hdropped
  have hdropped' := Database.nodup_keys_dropViewIfExists hn hdropped
  exact hdropped'

/-- A call keeps the names of relations distinct. -/
theorem nodup_keys_execute (hn : (Dict.keys db.relations).Nodup) (call : Call) :
    (Dict.keys (execute service db call).2.relations).Nodup := by
  cases call with
  | create rawName rawDescription rawSql faults =>
    simp only [execute, create]
    cases checkedCreate service faults db rawName rawDescription rawSql with
    | error e => exact hn
    | ok checked =>
      simp only [createOrReplaceViewTable]
      cases attempt faults .selectCurrentUser (some ()) with
      | error e => exact hn
      | ok u =>
        cases ht : createTransaction service faults db checked.1 checked.2.1 checked.2.2.sql with
        | error e => exact hn
        | ok committed =>
          obtain ⟨viewTables, t⟩ := committed
          have hnodup := nodup_keys_createTransaction hn ht
          cases viewTables with
          | nil => exact hnodup
          | cons viewTable viewTables => exact hnodup
  | delete rawName faults =>
    simp only [execute, delete]
    cases checkedDelete service rawName with
    | error e => exact hn
    | ok name =>
      simp only [deleteViewTable]
      cases ht : deleteTransaction service faults db name with
      | error e => exact hn
      | ok t => exact nodup_keys_deleteTransaction hn ht

end ViewTableService

open ViewTableService

variable {service : ViewTableHost}

/-- A name that may be written is none of the migrations' names. -/
theorem Deployed.notMem_protected (hs : Deployed s) (hr : s.revision = 4) {name : Str}
    (hu : Unreserved name) (hview : ∀ relation, s.database.relations.lookup name = some relation →
      relation.body.isSome = true) : name ∉ protectedRelations := by
  intro hp
  rcases List.mem_append.mp hp with hp | hp
  · rcases List.mem_pair.mp hp with rfl | rfl
    · exact hu.2 (List.mem_singleton_self _)
    · have htable : (applied s.revision).lookup (str "analytics_view_tables") =
          some { columns := viewTablesColumns } := by rw [hr]; decide
      obtain ⟨stored, hl, hshape⟩ := hs.lookup_of_applied (by decide) htable
      have hbody : stored.body = none := congrArg Prod.snd hshape
      simpa [hbody] using hview stored hl
  · exact hu.1 hp

/-- A call that returns keeps the deployment. -/
theorem Deployed.of_effect {call : Call} {t : Database} (hs : Deployed s) (hr : s.revision = 4)
    (hn : (Dict.keys t.relations).Nodup) (h : Effect service s.database call t) :
    Deployed { s with database := t } := by
  have hrows : s.revision < 4 → t.viewTables = [] := fun hlt => absurd hlt (by omega)
  cases h with
  | @created rawName rawDescription rawSql faults name description query definition grantee saved
      t hchecked hdefinition hgrantee hreads hview hbody hgranted hrelations hsaved =>
    have hname := hs.notMem_protected hr (checkedCreate_eq_ok hchecked).2.1 hview
    refine ⟨hs.revision_le, hn, fun other ho => ?_, fun other ho relation hl => ?_,
      fun other ho => ?_, ?_, hrows, hs.indexes⟩
    · have hne : other ≠ name := fun he => hname (he ▸ ho)
      rw [lookup_outline, hrelations, if_neg hne, ← lookup_outline]
      exact hs.shapes other ho
    · rw [hrelations] at hl
      split at hl
      · obtain rfl := Option.some.inj hl
        rw [hbody]
        rfl
      · exact hs.views other ho relation hl
    · rw [hsaved, Dict.mem_keys_set] at ho
      rcases ho with rfl | ho
      · refine ⟨hname, Dict.mem_keys_iff.mpr ⟨saved, ?_⟩⟩
        rw [hrelations, if_pos rfl]
      · exact ⟨(hs.saved other ho).1, mem_keys_of_created hrelations (hs.saved other ho).2⟩
    · rw [hsaved]
      exact Dict.nodup_keys_set hs.distinct _ _
  | @deleted rawName faults name t hchecked hview hrelations hdeleted =>
    have hname := hs.notMem_protected hr (checkedDelete_eq_ok hchecked).2
      fun relation hl => (hview relation hl).1
    refine ⟨hs.revision_le, hn, fun other ho => ?_, fun other ho relation hl => ?_,
      fun other ho => ?_, ?_, hrows, hs.indexes⟩
    · have hne : other ≠ name := fun he => hname (he ▸ ho)
      rw [lookup_outline, hrelations, if_neg hne, ← lookup_outline]
      exact hs.shapes other ho
    · rw [hrelations] at hl
      split at hl
      · simp at hl
      · exact hs.views other ho relation hl
    · rw [hdeleted, Dict.mem_keys_erase] at ho
      obtain ⟨relation, hl⟩ := Dict.mem_keys_iff.mp (hs.saved other ho.1).2
      refine ⟨(hs.saved other ho.1).1, Dict.mem_keys_iff.mpr ⟨relation, ?_⟩⟩
      rw [hrelations, if_neg ho.2, hl]
    · rw [hdeleted]
      exact Dict.nodup_keys_erase hs.distinct _

/-! ## Runs -/

/-- A command on the schema or a call of the service. -/
inductive DeploymentAction where
  | upgrade (env : MigrationEnvironment) (count : Nat)
  | downgrade (env : MigrationEnvironment) (count : Nat)
  | call (call : Call)

/-- A command that fails changes nothing, and neither does a call without the table of saved
views. -/
def deploymentStep (host : MigrationHost) (service : ViewTableHost) (s : Schema) :
    DeploymentAction → Option Schema
  | .upgrade env count => some ((s.upgrade host env count).getD s)
  | .downgrade env count => some ((s.downgrade host env count).getD s)
  | .call call =>
    some (if s.revision = 4 then { s with database := (execute service s.database call).2 } else s)

theorem deployed_empty : Deployed {} where
  revision_le := Nat.zero_le 4
  nodup := List.nodup_nil
  shapes _ _ := rfl
  views name _ relation hl := by simp at hl
  saved name hn := by simp at hn
  distinct := List.nodup_nil
  rows _ := rfl
  indexes := rfl

theorem Deployed.step {action : DeploymentAction} {t : Schema} (hs : Deployed s)
    (h : deploymentStep host service s action = some t) : Deployed t := by
  cases action with
  | upgrade env count =>
    obtain rfl := Option.some.inj h
    cases hu : s.upgrade host env count with
    | none => exact hs
    | some u => exact (hs.of_upgrade hu).1
  | downgrade env count =>
    obtain rfl := Option.some.inj h
    cases hu : s.downgrade host env count with
    | none => exact hs
    | some u => exact (hs.of_downgrade hu).1
  | call call =>
    obtain rfl := Option.some.inj h
    split
    · next hr =>
      have hn : (Dict.keys (execute service s.database call).2.relations).Nodup :=
        nodup_keys_execute hs.nodup call
      rcases execute_cases service s.database call with ⟨e, he⟩ | ⟨-, heffect⟩
      · rw [he]
        exact hs
      · exact hs.of_effect hr hn heffect
    · exact hs

/-- Every run over an empty schema is a deployment. -/
theorem deployed_of_run {actions : List DeploymentAction}
    (h : run (deploymentStep host service) {} actions = some s) : Deployed s :=
  invariant_of_run (fun _ _ _ hs ht => hs.step ht) deployed_empty h

/-- After every run an upgrade goes through unless it leaves the revisions or is not permitted,
and a downgrade unless a saved view reads what one of its revisions created or the role to
revoke from is missing. -/
theorem migrations_succeed_iff (host : MigrationHost) (service : ViewTableHost)
    (actions : List DeploymentAction) (s : Schema)
    (h : run (deploymentStep host service) {} actions = some s) (env : MigrationEnvironment)
    (count : Nat) :
    ((s.upgrade host env count).isSome = true ↔ s.revision + count ≤ 4 ∧
      ∀ k < count, env.Permits (upgradeStatements host env.rawUrl (s.revision + k))) ∧
    ((s.downgrade host env count).isSome = true ↔ count ≤ s.revision ∧
      ∀ revision < s.revision, s.revision ≤ revision + count →
        env.Permits (downgradeStatements host env.rawUrl revision) ∧
          Undoable host env.rawUrl s revision) :=
  ⟨(deployed_of_run h).upgrade_isSome count, (deployed_of_run h).downgrade_isSome count⟩

/-- A host on which every address is a user name and no name is a keyword. -/
def plainMigrationHost : MigrationHost where
  makeUrl rawUrl := some ⟨some rawUrl, none⟩
  keyword _ := false

/-- An environment with a reader role, on a server that refuses nothing. -/
def readerEnvironment : MigrationEnvironment where
  rawUrl := some (str "analytics_reader")
  refuses _ := false

/-- All migrations, and a view over the events. -/
def labelledActions : List DeploymentAction :=
  [.upgrade readerEnvironment 4, .call (saveLabelled plainSource)]

/-- The schema with the view. -/
def labelledSchema : Schema :=
  (run (deploymentStep plainMigrationHost (eventsHost plainSource)) {} labelledActions).getD {}

theorem run_labelledActions :
    run (deploymentStep plainMigrationHost (eventsHost plainSource)) {} labelledActions =
      some labelledSchema := run_eq_some_getD rfl {}

/-- The view keeps the events from being dropped. -/
theorem labelled_view_blocks_events :
    (labelledSchema.downgrade plainMigrationHost readerEnvironment 4).isSome = false := by
  have hiff := (migrations_succeed_iff plainMigrationHost (eventsHost plainSource)
    labelledActions labelledSchema run_labelledActions readerEnvironment 4).2
  have hrevision : labelledSchema.revision = 4 := by decide +kernel
  have hblocked : labelledSchema.Blocked (str "events") := by decide +kernel
  refine Bool.eq_false_iff.mpr fun h => ?_
  have hundoable := ((hiff.mp h).2 0 (by omega) (by omega)).2
  exact hundoable.unread (str "events") (by decide) hblocked

/-- The text is in lower case: letters and blanks. -/
def IsLowerText (text : Str) : Prop := ∀ c ∈ text, c = 32 ∨ 97 ≤ c ∧ c ≤ 122

instance (text : Str) : Decidable (IsLowerText text) :=
  inferInstanceAs (Decidable (∀ c ∈ text, _))

theorem columnKindFromPostgresType_of_lower {lower : Str → Str} {dataType : Str}
    (h : lower dataType = dataType) :
    columnKindFromPostgresType lower dataType = columnKindFromPostgresType id dataType := by
  simp only [columnKindFromPostgresType, h, id]

/-- The views are created with the columns the catalog lists, of types in lower case. -/
theorem catalog_of_applied {revision : Nat} (h : 2 ≤ revision) (hle : revision ≤ 4)
    {dataset : AnalyticsDataset} (hd : dataset ∈ datasets) :
    ∃ shape, (outline (applied revision)).lookup dataset.name = some shape ∧
      (∀ c ∈ shape.1, IsLowerText c.2) ∧
      shape.1.map (fun c => (c.1, columnKindFromPostgresType id c.2)) =
        dataset.columns.map fun c => (c.name, c.kind) := by
  have hall : ∀ dataset ∈ datasets, ∀ revision ≤ 4, 2 ≤ revision →
      ((outline (applied revision)).lookup dataset.name).any fun shape =>
        (∀ c ∈ shape.1, IsLowerText c.2) ∧
          shape.1.map (fun c => (c.1, columnKindFromPostgresType id c.2)) =
            dataset.columns.map fun c => (c.name, c.kind) := by decide +kernel
  have hany := hall dataset hd revision hle h
  rw [Option.any_eq_true] at hany
  obtain ⟨shape, hl, hshape⟩ := hany
  exact ⟨shape, hl, of_decide_eq_true hshape⟩

/-- The columns of the built-in datasets are those of the views, with their kinds. -/
theorem Deployed.builtin_columns (hs : Deployed s) (hr : 2 ≤ s.revision) {lower : Str → Str}
    (hlower : ∀ text, IsLowerText text → lower text = text) {dataset : AnalyticsDataset}
    (hd : dataset ∈ datasets) :
    (s.database.columnsOf lower dataset.name).map (fun c => (c.name, c.kind)) =
      dataset.columns.map fun c => (c.name, c.kind) := by
  have hname : dataset.name ∈ protectedRelations :=
    List.mem_append_right _ (List.mem_map_of_mem hd)
  obtain ⟨shape, hl, htext, hcolumns⟩ := catalog_of_applied hr hs.revision_le hd
  have hshape := (hs.shapes dataset.name hname).trans hl
  rw [lookup_outline, Option.map_eq_some_iff] at hshape
  obtain ⟨relation, hrelation, rfl⟩ := hshape
  rw [← hcolumns]
  simp only [Database.columnsOf, hrelation, List.map_map]
  refine List.map_congr_left fun c hc => ?_
  exact congrArg (c.1, ·) (columnKindFromPostgresType_of_lower (hlower c.2 (htext c hc)))

/-- After every run the relations of the migrations are those of the revision, every row has its
view, commands leave saved views alone, and the catalog describes the built-in views. -/
theorem deployed_relations (host : MigrationHost) (service : ViewTableHost)
    (actions : List DeploymentAction) (s : Schema)
    (h : run (deploymentStep host service) {} actions = some s) :
    (∀ name ∈ protectedRelations, (s.database.relations.lookup name).map StoredRelation.shape =
      ((applied s.revision).lookup name).map StoredRelation.shape) ∧
    (∀ name ∈ Dict.keys s.database.viewTables, s.database.IsUserView name) ∧
    (∀ env count t, s.upgrade host env count = some t ∨ s.downgrade host env count = some t →
      ∀ name ∉ protectedRelations,
        t.database.relations.lookup name = s.database.relations.lookup name) ∧
    (2 ≤ s.revision → ∀ lower : Str → Str, (∀ text, IsLowerText text → lower text = text) →
      ∀ dataset ∈ datasets,
        (s.database.columnsOf lower dataset.name).map (fun c => (c.name, c.kind)) =
          dataset.columns.map fun c => (c.name, c.kind)) := by
  have hs := deployed_of_run h
  refine ⟨fun name hn => ?_, fun name hn => ?_, fun env count t ht => ?_,
    fun hr lower hlower dataset hd => hs.builtin_columns hr hlower hd⟩
  · rw [← lookup_outline, ← lookup_outline]
    exact hs.shapes name hn
  · obtain ⟨hp, hk⟩ := hs.saved name hn
    obtain ⟨relation, hl⟩ := Dict.mem_keys_iff.mp hk
    exact ⟨fun ha => hp (List.mem_append_right _ ha), relation, hl, hs.views name hp relation hl⟩
  · rcases ht with ht | ht
    · exact (hs.of_upgrade ht).2.2
    · exact (hs.of_downgrade ht).2.2

/-- The view of the run has its row, and is kept when the table of its row is dropped. -/
theorem labelled_view_kept :
    labelledSchema.database.IsUserView labelledName ∧
      ∀ t, labelledSchema.downgrade plainMigrationHost readerEnvironment 3 = some t →
        t.database.relations.lookup labelledName =
          labelledSchema.database.relations.lookup labelledName := by
  obtain ⟨-, hrows, hkept, -⟩ := deployed_relations plainMigrationHost (eventsHost plainSource)
    labelledActions labelledSchema run_labelledActions
  refine ⟨hrows labelledName (by decide +kernel), fun t ht => ?_⟩
  exact hkept readerEnvironment 3 t (Or.inr ht) labelledName (by decide)

/-- After every run `load_view_tables` makes one view table out of the joined rows of each row
it asks for, with the columns of its view. -/
theorem loaded_viewTables (host : MigrationHost) (service : ViewTableHost)
    (actions : List DeploymentAction) (s : Schema)
    (h : run (deploymentStep host service) {} actions = some s) (lower : Str → Str)
    (name : Option Str) :
    ((loadViewTables lower (s.database.metadataRows name)).map AnalyticsViewTable.name).Nodup ∧
    ∀ viewTable, viewTable ∈ loadViewTables lower (s.database.metadataRows name) ↔
      (∀ asked ∈ name, viewTable.name = asked) ∧
      ∃ record relation, s.database.viewTables.lookup viewTable.name = some record ∧
        s.database.relations.lookup viewTable.name = some relation ∧
        viewTable = ⟨viewTable.name, record.description, record.sourceSql,
          relation.columns.map fun c => ⟨c.1, c.1, columnKindFromPostgresType lower c.2⟩⟩ := by
  have hs := deployed_of_run h
  refine ⟨nodup_names_loadViewTables _, fun viewTable => ?_⟩
  rw [Database.loadViewTables_metadataRows hs.distinct, Database.mem_loadViewTables hs.distinct]
  refine and_congr_right fun _ => exists_congr fun record => ?_
  constructor
  · rintro ⟨hrecord, hviewTable⟩
    obtain ⟨relation, hrelation⟩ :=
      Dict.mem_keys_iff.mp (hs.saved viewTable.name (Dict.mem_keys_iff.mpr ⟨record, hrecord⟩)).2
    rw [Database.columnsOf, hrelation] at hviewTable
    exact ⟨relation, hrecord, hrelation, hviewTable⟩
  · rintro ⟨relation, hrecord, hrelation, hviewTable⟩
    rw [Database.columnsOf, hrelation]
    exact ⟨hrecord, hviewTable⟩

/-- The view of the run is loaded with its two columns. -/
theorem labelled_viewTable_loaded :
    (⟨labelledName, [], plainSource, [⟨str "c", str "c", .dimension⟩,
      ⟨str "event_type", str "event_type", .dimension⟩]⟩ : AnalyticsViewTable) ∈
        loadViewTables asciiLower (labelledSchema.database.metadataRows (some labelledName)) := by
  refine ((loaded_viewTables plainMigrationHost (eventsHost plainSource) labelledActions
    labelledSchema run_labelledActions asciiLower (some labelledName)).2 _).mpr ⟨?_, ?_⟩
  · exact fun asked hasked => Option.some.inj hasked
  · refine ⟨⟨[], plainSource⟩, ⟨[(str "c", str "text"), (str "event_type", str "text")],
      [quotedIdentifier (str "analytics_reader")], some ⟨plainSource, [str "events"]⟩⟩,
      ?_, ?_, ?_⟩
    · decide +kernel
    · decide +kernel
    · decide +kernel

/-- Only all revisions create all of the relations. -/
theorem protected_of_applied {revision : Nat} (hle : revision ≤ 4)
    (h : protectedRelations ⊆ Dict.keys (applied revision)) : revision = 4 := by
  revert revision
  decide

/-- After every run the database is a migrated one exactly at the last revision with nothing
saved. -/
theorem migrated_iff (host : MigrationHost) (service : ViewTableHost)
    (actions : List DeploymentAction) (s : Schema)
    (h : run (deploymentStep host service) {} actions = some s) :
    Migrated s.database ↔ s.revision = 4 ∧ s.database.viewTables = [] ∧
      Dict.keys s.database.relations ⊆ protectedRelations := by
  have hs := deployed_of_run h
  constructor
  · intro hm
    refine ⟨protected_of_applied hs.revision_le fun name hn => ?_, hm.rows, fun name hn => ?_⟩
    · obtain ⟨relation, hl⟩ := Dict.mem_keys_iff.mp (hm.present name hn)
      have hshape := hs.shapes name hn
      rw [lookup_outline, hl, Option.map_some] at hshape
      rw [← keys_outline]
      exact Dict.mem_keys_iff.mpr ⟨_, hshape.symm⟩
    · by_contra hp
      obtain ⟨relation, hl⟩ := Dict.mem_keys_iff.mp hn
      have hbuiltin := (hm.views name relation hl).mp (hs.views name hp relation hl)
      exact hp (List.mem_append_right _ hbuiltin)
  · rintro ⟨hr, hrows, hsub⟩
    refine ⟨hrows, fun name hn => hs.mem_keys_of_applied hn ?_, fun name relation hl => ?_⟩
    · rw [hr]
      exact (by decide : protectedRelations ⊆ Dict.keys (applied 4)) hn
    · have hviews : ∀ item ∈ outline (applied 4),
          (item.2.2.isSome = true ↔ item.1 ∈ allowedDatasetNames) := by decide
      have hm := hs.mem_outline_applied (Dict.mem_of_lookup hl)
        (hsub (Dict.mem_keys_iff.mpr ⟨relation, hl⟩))
      rw [hr] at hm
      exact hviews _ hm

/-- The schema after all migrations. -/
def headSchema : Schema :=
  (run (deploymentStep plainMigrationHost (eventsHost plainSource)) {}
    [.upgrade readerEnvironment 4]).getD {}

/-- All migrations over an empty schema lead to a migrated database. -/
theorem migrated_headSchema : Migrated headSchema.database :=
  (migrated_iff plainMigrationHost (eventsHost plainSource) [.upgrade readerEnvironment 4]
    headSchema (run_eq_some_getD rfl {})).mpr
      ⟨by decide +kernel, by decide +kernel, by decide +kernel⟩

end LiveData.Analytics
