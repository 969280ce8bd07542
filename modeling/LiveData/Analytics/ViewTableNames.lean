import LiveData.Analytics.ViewTableEffects
import LiveData.Sql.ViewStatements

/-!
# The view a name denotes

An accepted view table name is spliced unquoted into the statements of the repository. They
are about the view of that name, and later sources read it, exactly when the name is no
reserved key word and no relation of the system catalog has it.
-/

namespace LiveData.Analytics

open Sql

/-- A view table name is a lower-case name. -/
theorem isName_of_isViewTableName {name : Str} (h : isViewTableName name = true) :
    isName name = true := by
  cases name with
  | nil => simp [isViewTableName] at h
  | cons c rest =>
    simp only [isViewTableName, Bool.and_eq_true, decide_eq_true_eq] at h
    obtain ⟨⟨⟨⟨hl, hu⟩, hrest⟩, -⟩, -⟩ := h
    simp only [isName, hl, hu, decide_true, Bool.and_self, Bool.true_or, Bool.true_and]
    exact hrest

/-- The statements built with a name are about the view of that name in the public schema,
once it is there, and a later source that names the view reads it. -/
structure DenotesOwnView (server : Server) (name : Str) : Prop where
  create : ∀ sourceSql publicRelations,
    server.understands publicRelations (buildCreateViewTableSql name sourceSql) =
      some (.createOrReplaceView name sourceSql, .publicSchema)
  grant : ∀ roleName publicRelations, name ∈ publicRelations →
    server.understands publicRelations (buildGrantViewTableSql name roleName) =
      some (.grantSelect name roleName, .publicSchema)
  drop : ∀ publicRelations, name ∈ publicRelations →
    server.understands publicRelations (buildDropViewTableSql name) =
      some (.dropViewIfExists name, .publicSchema)
  read : ∀ expression publicRelations, name ∈ publicRelations → ∀ r ∈ references expression,
    r.reference.Unqualified → ∀ i, r.ReadsRelation i → i.folded = name →
      server.resolve defaultSearchPath publicRelations i.folded = some .publicSchema

/-- A submitted name that the service accepts denotes its own view. -/
def AcceptedNameDenotesOwnView (host : ViewTableHost) (server : Server) (submitted : Str) : Prop :=
  ∀ name, ViewTableService.checkedDelete host submitted = .ok name → DenotesOwnView server name

section

variable {server : Server} {name : Str}

theorem understands_create (h : isViewTableName name = true) (sourceSql : Str)
    (publicRelations : List Str) :
    server.understands publicRelations (buildCreateViewTableSql name sourceSql) =
      if server.reserved name then none
      else some (.createOrReplaceView name sourceSql, .publicSchema) := by
  rw [Server.understands, buildCreateViewTableSql, List.append_assoc, List.append_assoc,
    Server.readStatement_create (isName_of_isViewTableName h)]
  cases server.reserved name <;> rfl

theorem understands_grant (h : isViewTableName name = true) (roleName : Str)
    (publicRelations : List Str) :
    server.understands publicRelations (buildGrantViewTableSql name roleName) =
      if server.reserved name then none
      else (server.resolve defaultSearchPath publicRelations name).map
        (ViewStatement.grantSelect name roleName, ·) := by
  have htext : buildGrantViewTableSql name roleName = str "GRANT SELECT ON TABLE " ++
      (name ++ (str " TO \"" ++ (quotedIdentifier roleName).tail)) := by
    simp [buildGrantViewTableSql, quotedIdentifier, str]
  have hrole : readQuoted (quotedIdentifier roleName).tail = some roleName :=
    readQuoted_escaped roleName
  rw [Server.understands, htext, Server.readStatement_grant (isName_of_isViewTableName h) hrole]
  cases server.reserved name <;> rfl

theorem understands_drop (h : isViewTableName name = true) (publicRelations : List Str) :
    server.understands publicRelations (buildDropViewTableSql name) =
      if server.reserved name then none
      else (server.resolve defaultSearchPath publicRelations name).map
        (ViewStatement.dropViewIfExists name, ·) := by
  rw [Server.understands, buildDropViewTableSql,
    Server.readStatement_drop (isName_of_isViewTableName h)]
  cases server.reserved name <;> rfl

/-- A view table name denotes its own view unless it is reserved or names a catalog relation. -/
theorem denotesOwnView_iff (h : isViewTableName name = true) :
    DenotesOwnView server name ↔ server.reserved name = false ∧ name ∉ server.catalogRelations := by
  constructor
  · intro hd
    have hreserved : server.reserved name = false := by
      have hc := hd.create [] []
      rw [understands_create h] at hc
      cases hr : server.reserved name with
      | false => rfl
      | true => simp [hr] at hc
    refine ⟨hreserved, ?_⟩
    have hdrop := hd.drop [name] (by simp)
    rw [understands_drop h, hreserved, if_neg Bool.false_ne_true, Option.map_eq_some_iff] at hdrop
    obtain ⟨schema, hs, he⟩ := hdrop
    obtain rfl : schema = .publicSchema := congrArg Prod.snd he
    exact (Server.resolve_default (by simp)).mp hs
  · rintro ⟨hreserved, hcatalog⟩
    have hresolve : ∀ publicRelations, name ∈ publicRelations →
        server.resolve defaultSearchPath publicRelations name = some .publicSchema :=
      fun _ hm => (Server.resolve_default hm).mpr hcatalog
    refine ⟨fun sourceSql publicRelations => ?_, fun roleName publicRelations hm => ?_,
      fun publicRelations hm => ?_, ?_⟩
    · rw [understands_create h, hreserved]
      rfl
    · rw [understands_grant h, hreserved, hresolve publicRelations hm]
      rfl
    · rw [understands_drop h, hreserved, hresolve publicRelations hm]
      rfl
    · rintro - publicRelations hm - - - i - rfl
      exact hresolve publicRelations hm

end

/-- Accepted names denote their own views exactly when none is a reserved key word or the
name of a catalog relation. -/
theorem acceptedNameDenotesOwnView_iff (host : ViewTableHost) (server : Server)
    (submitted : Str) :
    AcceptedNameDenotesOwnView host server submitted ↔
      ∀ name, ViewTableService.checkedDelete host submitted = .ok name →
        server.reserved name = false ∧ name ∉ server.catalogRelations :=
  forall_congr' fun _ => imp_congr_right fun h =>
    denotesOwnView_iff
      (ViewTableService.isViewTableName_of_normalized
        (ViewTableService.checkedDelete_eq_ok h).1)

/-- The service with ASCII texts; no query is parsed. -/
def asciiHost : ViewTableHost where
  sqlglot :=
    { lower := asciiLower
      eq_nil_of_lower := eq_nil_of_asciiLower
      parse := fun _ => .error .parseError
      generate := fun _ => .ok [] }
  strip := fun s => ((s.dropWhile (· == 32)).reverse.dropWhile (· == 32)).reverse
  wide := fun _ => false
  policy := {}
  readerRole := str "reader"
  outputColumns := fun _ _ => none

/-- Some reserved key words and catalog relations of every server. -/
def commonServer : Server where
  reserved := fun word => word ∈ [str "from", str "order", str "select", str "user"]
  catalogRelations := [str "pg_class", str "pg_stat_activity", str "pg_views"]

/-- A view saved as `pg_class` is not the relation later statements are about. -/
theorem pg_class_denotes_catalog :
    ¬∀ (host : ViewTableHost) (server : Server) (submitted : Str),
      AcceptedNameDenotesOwnView host server submitted := by
  intro h
  have hname : ViewTableService.checkedDelete asciiHost (str "pg_class") =
      .ok (str "pg_class") := by decide
  have hd := (denotesOwnView_iff (by decide)).mp (h asciiHost commonServer (str "pg_class") _ hname)
  exact absurd hd.2 (by decide)

end LiveData.Analytics
