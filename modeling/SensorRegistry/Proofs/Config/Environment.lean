/-
The configuration that an environment gives, exactly. Five variables are checked; loading fails if one of them has an
unusable text, and reports the first such variable in the order of the checks. Otherwise every field has the value that
its own variables give, or its standard value, so a change of one variable changes one field at most.
-/
import SensorRegistry.Proofs.Config.DatabaseUrl
import SensorRegistry.Proofs.Config.Variable

namespace SensorRegistry.Config

/-! ## Fields -/

/-- The database URL that an environment gives. -/
inductive NamesDatabase (env : Environment) : Text → Prop
  | whole {url : Text} : env "DATABASE_URL" = some url → NamesDatabase env url
  | parts {p : DatabaseParts} : env "DATABASE_URL" = none → DatabaseParts.ofEnvironment? env = some p →
    NamesDatabase env p.url
  | standard : env "DATABASE_URL" = none →
    env "PGHOST" = none ∨ env "PGUSER" = none ∨ env "PGPASSWORD" = none ∨ env "PGDATABASE" = none →
    NamesDatabase env standard.database.url

/-- The configuration that an environment gives, field by field. -/
structure Loads (env : Environment) (config : Config) : Prop where
  databaseUrl : NamesDatabase env config.database.url
  poolSize : Variable.poolSize.Gives env config.database.poolSize
  poolTimeout : config.database.poolTimeoutSeconds = standard.database.poolTimeoutSeconds
  scheme : Variable.scheme.Gives env config.server.scheme
  host : Variable.host.Gives env config.server.host
  port : Variable.port.Gives env config.server.port
  logLevel : Variable.logLevel.Gives env config.logging.level
  logFormat : Variable.logFormat.Gives env config.logging.format
  sensorsMaxLimit : Variable.sensorsMaxLimit.Gives env config.paging.sensorsMaxLimit
  metricsMaxLimit : Variable.metricsMaxLimit.Gives env config.paging.metricsMaxLimit

theorem DatabaseParts.ofEnvironment?_eq_none_iff {env : Environment} :
    ofEnvironment? env = none ↔
      env "PGHOST" = none ∨ env "PGUSER" = none ∨ env "PGPASSWORD" = none ∨ env "PGDATABASE" = none := by
  unfold ofEnvironment?
  cases env "PGHOST" <;> cases env "PGUSER" <;> cases env "PGPASSWORD" <;> cases env "PGDATABASE" <;> simp

theorem namesDatabase_iff {env : Environment} {url : Text} : NamesDatabase env url ↔ databaseUrl env = url := by
  unfold databaseUrl
  rw [DatabaseParts.urlFromParts?_eq]
  constructor
  · intro h
    cases h with
    | whole hwhole => rw [hwhole]; rfl
    | parts hwhole hparts => rw [hwhole, hparts]; rfl
    | standard hwhole hparts => rw [hwhole, DatabaseParts.ofEnvironment?_eq_none_iff.2 hparts]; rfl
  · rintro rfl
    cases hwhole : env "DATABASE_URL" with
    | some url => exact .whole hwhole
    | none =>
      cases hparts : DatabaseParts.ofEnvironment? env with
      | some p => exact .parts hwhole hparts
      | none => exact .standard hwhole (DatabaseParts.ofEnvironment?_eq_none_iff.1 hparts)

theorem gives_text_iff {name : String} {otherwise : Text} {env : Environment} {a : Text} :
    (Variable.text name otherwise).Gives env a ↔ (env name).getD otherwise = a := by
  constructor
  · intro h
    cases h with
    | unset hnone => rw [show env name = none from hnone]; rfl
    | given hsome ha => rw [show env name = some _ from hsome]; exact ha.symm
  · rintro rfl
    cases h : env name with
    | none => exact .unset h
    | some raw => exact .given h rfl

/-- A variable of a range without negative numbers gives none. -/
theorem nonneg_of_gives {name : String} {range : IntegerRange} {hzero : range.contains 0 = true} {otherwise n : Int}
    {env : Environment} (hleast : range.least = 0) (hotherwise : 0 ≤ otherwise)
    (h : (Variable.integer name range hzero otherwise).Gives env n) : 0 ≤ n := by
  cases h with
  | unset => exact hotherwise
  | given _ hspelled =>
    have hcontains := IntegerRange.contains_of_read hzero ((IntegerRange.read_eq_ok_iff hzero).2 hspelled)
    rw [IntegerRange.contains_iff, hleast] at hcontains
    exact hcontains.1

theorem ofEnvironment_eq_ok_iff {env : Environment} {config : Config} :
    ofEnvironment env = .ok config ↔ Loads env config := by
  unfold ofEnvironment
  constructor
  · intro h
    obtain ⟨poolSize, hpoolSize, h⟩ := (Variable.reads_integer ..).bind_eq_ok_iff.1 h
    obtain ⟨port, hport, h⟩ := (Variable.reads_integer ..).bind_eq_ok_iff.1 h
    obtain ⟨format, hformat, h⟩ := (Variable.reads_logFormat env).bind_eq_ok_iff.1 h
    obtain ⟨sensors, hsensors, h⟩ := (Variable.reads_integer ..).bind_eq_ok_iff.1 h
    obtain ⟨metrics, hmetrics, h⟩ := (Variable.reads_integer ..).bind_eq_ok_iff.1 h
    cases h
    have hpoolNonneg : 0 ≤ poolSize := nonneg_of_gives rfl (by decide) hpoolSize
    have hportNonneg : 0 ≤ port := nonneg_of_gives rfl (by decide) hport
    exact {
      databaseUrl := namesDatabase_iff.2 rfl
      poolSize := (Int.toNat_of_nonneg hpoolNonneg).symm ▸ hpoolSize
      poolTimeout := rfl
      scheme := gives_text_iff.2 rfl
      host := gives_text_iff.2 rfl
      port := (Int.toNat_of_nonneg hportNonneg).symm ▸ hport
      logLevel := gives_text_iff.2 rfl
      logFormat := hformat
      sensorsMaxLimit := hsensors
      metricsMaxLimit := hmetrics }
  · intro h
    refine (Variable.reads_integer ..).bind_eq_ok_iff.2 ⟨_, h.poolSize, ?_⟩
    refine (Variable.reads_integer ..).bind_eq_ok_iff.2 ⟨_, h.port, ?_⟩
    refine (Variable.reads_logFormat env).bind_eq_ok_iff.2 ⟨_, h.logFormat, ?_⟩
    refine (Variable.reads_integer ..).bind_eq_ok_iff.2 ⟨_, h.sensorsMaxLimit, ?_⟩
    refine (Variable.reads_integer ..).bind_eq_ok_iff.2 ⟨_, h.metricsMaxLimit, ?_⟩
    rw [namesDatabase_iff.1 h.databaseUrl, gives_text_iff.1 h.scheme, gives_text_iff.1 h.host,
      gives_text_iff.1 h.logLevel, Int.toNat_natCast, Int.toNat_natCast, ← h.poolTimeout]
    rfl

theorem checks_ofEnvironment (env : Environment) : Variable.Checks env Variable.checked (ofEnvironment env) := by
  unfold ofEnvironment
  refine (Variable.reads_integer ..).bind fun poolSize => ?_
  refine (Variable.reads_integer ..).bind fun port => ?_
  refine (Variable.reads_logFormat env).bind fun format => ?_
  refine (Variable.reads_integer ..).bind fun sensors => ?_
  refine (Variable.reads_integer ..).bind fun metrics => ?_
  exact .ok (by simp)

/-! ## One variable, one field -/

/-- The fields of a configuration. -/
inductive Field
  | databaseUrl
  | poolSize
  | poolTimeout
  | scheme
  | host
  | port
  | logLevel
  | logFormat
  | sensorsMaxLimit
  | metricsMaxLimit
  deriving DecidableEq

namespace Field

/-- The field that a variable decides, alone or with others. -/
def of? : String → Option Field
  | "DATABASE_URL" => some databaseUrl
  | "PGHOST" => some databaseUrl
  | "PGPORT" => some databaseUrl
  | "PGUSER" => some databaseUrl
  | "PGPASSWORD" => some databaseUrl
  | "PGDATABASE" => some databaseUrl
  | "PGSSLMODE" => some databaseUrl
  | "DATABASE_POOL_SIZE" => some poolSize
  | "API_SCHEME" => some scheme
  | "HOST" => some host
  | "PORT" => some port
  | "LOG_LEVEL" => some logLevel
  | "LOG_FORMAT" => some logFormat
  | "SENSORS_MAX_LIMIT" => some sensorsMaxLimit
  | "METRICS_MAX_LIMIT" => some metricsMaxLimit
  | _ => none

/-- Two configurations have the same value in the field. -/
def Agree (c c' : Config) : Field → Prop
  | databaseUrl => c'.database.url = c.database.url
  | poolSize => c'.database.poolSize = c.database.poolSize
  | poolTimeout => c'.database.poolTimeoutSeconds = c.database.poolTimeoutSeconds
  | scheme => c'.server.scheme = c.server.scheme
  | host => c'.server.host = c.server.host
  | port => c'.server.port = c.server.port
  | logLevel => c'.logging.level = c.logging.level
  | logFormat => c'.logging.format = c.logging.format
  | sensorsMaxLimit => c'.paging.sensorsMaxLimit = c.paging.sensorsMaxLimit
  | metricsMaxLimit => c'.paging.metricsMaxLimit = c.paging.metricsMaxLimit

/-- The fields are all there is to a configuration. -/
theorem eq_of_agree {c c' : Config} (h : ∀ field, Agree c c' field) : c' = c := by
  obtain ⟨⟨url, size, timeout⟩, ⟨scheme, host, port⟩, ⟨level, format⟩, ⟨sensors, metrics⟩⟩ := c
  obtain ⟨⟨url', size', timeout'⟩, ⟨scheme', host', port'⟩, ⟨level', format'⟩, ⟨sensors', metrics'⟩⟩ := c'
  obtain rfl : url' = url := h .databaseUrl
  obtain rfl : size' = size := h .poolSize
  obtain rfl : timeout' = timeout := h .poolTimeout
  obtain rfl : scheme' = scheme := h .scheme
  obtain rfl : host' = host := h .host
  obtain rfl : port' = port := h .port
  obtain rfl : level' = level := h .logLevel
  obtain rfl : format' = format := h .logFormat
  obtain rfl : sensors' = sensors := h .sensorsMaxLimit
  obtain rfl : metrics' = metrics := h .metricsMaxLimit
  rfl

end Field

theorem databaseUrl_congr {env env' : Environment}
    (h : ∀ name, Field.of? name = some .databaseUrl → env' name = env name) : databaseUrl env' = databaseUrl env := by
  unfold databaseUrl urlFromParts?
  rw [h "DATABASE_URL" rfl, h "PGHOST" rfl, h "PGPORT" rfl, h "PGUSER" rfl, h "PGPASSWORD" rfl, h "PGDATABASE" rfl,
    h "PGSSLMODE" rfl]

/-- A field is decided by its own variables. -/
theorem Loads.agree {env env' : Environment} {config config' : Config} (h : Loads env config) (h' : Loads env' config')
    (field : Field) (henv : ∀ name, Field.of? name = some field → env' name = env name) :
    field.Agree config config' := by
  cases field with
  | databaseUrl =>
    have hurl := databaseUrl_congr henv
    rwa [namesDatabase_iff.1 h.databaseUrl, namesDatabase_iff.1 h'.databaseUrl] at hurl
  | poolSize => exact Int.ofNat.inj (h.poolSize.congr h'.poolSize (henv _ rfl))
  | poolTimeout => exact h'.poolTimeout.trans h.poolTimeout.symm
  | scheme => exact h.scheme.congr h'.scheme (henv _ rfl)
  | host => exact h.host.congr h'.host (henv _ rfl)
  | port => exact Int.ofNat.inj (h.port.congr h'.port (henv _ rfl))
  | logLevel => exact h.logLevel.congr h'.logLevel (henv _ rfl)
  | logFormat => exact h.logFormat.congr h'.logFormat (henv _ rfl)
  | sensorsMaxLimit => exact h.sensorsMaxLimit.congr h'.sensorsMaxLimit (henv _ rfl)
  | metricsMaxLimit => exact h.metricsMaxLimit.congr h'.metricsMaxLimit (henv _ rfl)

/-- Loading fails exactly when a checked variable is faulty, and then it reports the first one. Otherwise it gives the
configuration that has in every field what the environment gives for it. Of two environments that differ in one variable
and both load, the configurations differ in the field of that variable at most. -/
theorem ofEnvironment_exact (env : Environment) :
    ((∃ fault, ofEnvironment env = .error fault) ↔ ∃ v ∈ Variable.checked, v.2.Faulty env) ∧
    (∀ fault, ofEnvironment env = .error fault → Variable.FirstFaulty env Variable.checked fault.name) ∧
    (∀ config, ofEnvironment env = .ok config ↔ Loads env config) ∧
    ∀ env' name config config', (∀ other, other ≠ name → env' other = env other) →
      ofEnvironment env = .ok config → ofEnvironment env' = .ok config' →
        (∀ field, Field.of? name ≠ some field → field.Agree config config') ∧
        (Field.of? name = none → config' = config) := by
  have hchecks := checks_ofEnvironment env
  refine ⟨?_, ?_, fun config => ofEnvironment_eq_ok_iff, ?_⟩
  · generalize ofEnvironment env = outcome at hchecks
    cases hchecks with
    | ok hfine =>
      constructor
      · rintro ⟨fault, h⟩
        cases h
      · rintro ⟨v, hv, hfaulty⟩
        exact absurd hfaulty (hfine v hv)
    | error hfirst =>
      refine ⟨fun _ => ?_, fun _ => ⟨_, rfl⟩⟩
      obtain ⟨before, v, after, hvs, hfaulty, -⟩ := hfirst
      exact ⟨v, hvs ▸ List.mem_append_right before List.mem_cons_self, hfaulty⟩
  · intro fault h
    rw [h] at hchecks
    cases hchecks with
    | error hfirst => exact hfirst
  · intro env' name config config' henv hload hload'
    rw [ofEnvironment_eq_ok_iff] at hload hload'
    have hagree : ∀ field, Field.of? name ≠ some field → field.Agree config config' := by
      intro field hfield
      refine hload.agree hload' field fun other hother => henv other ?_
      rintro rfl
      exact hfield hother
    exact ⟨hagree, fun hnone => Field.eq_of_agree fun field => hagree field (by simp [hnone])⟩

/-- A port with a sign and spaces, changed alone; and an environment in which the second and the third check fail. -/
theorem ofEnvironment_exact_port :
    let env : Environment := fun
      | "PORT" => some " +8081 ".toList
      | "LOG_FORMAT" => some "JSON".toList
      | "METRICS_MAX_LIMIT" => some "-5".toList
      | "PGHOST" => some "db".toList
      | _ => none
    let env' : Environment := fun name => if name = "PORT" then some "9".toList else env name
    let broken : Environment := fun
      | "PORT" => some "-0".toList
      | "LOG_FORMAT" => some "xml".toList
      | _ => none
    let config : Config := { standard with
      server.port := 8081, logging.format := .json, paging.metricsMaxLimit := -5 }
    let config' : Config := { config with server.port := 9 }
    ofEnvironment env = .ok config ∧ ofEnvironment env' = .ok config' ∧ Loads env config ∧
      (∀ field : Field, field ≠ .port → field.Agree config config') ∧
      Variable.FirstFaulty broken Variable.checked "PORT".toList := by
  intro env env' broken config config'
  have hload : ofEnvironment env = .ok config := by decide +kernel
  have hload' : ofEnvironment env' = .ok config' := by decide +kernel
  have hbroken : ofEnvironment broken = .error (.notInteger "PORT" .invalidDigit) := by decide +kernel
  obtain ⟨-, -, hloads, hsingle⟩ := ofEnvironment_exact env
  obtain ⟨-, hfirst, -, -⟩ := ofEnvironment_exact broken
  refine ⟨hload, hload', (hloads config).1 hload, fun field hfield => ?_, hfirst _ hbroken⟩
  have hport : Field.of? "PORT" = some .port := rfl
  refine (hsingle env' "PORT" config config' (fun other hother => if_neg hother) hload hload').1 field ?_
  rw [hport]
  exact fun h => hfield (Option.some.inj h).symm

end SensorRegistry.Config
