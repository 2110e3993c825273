/-
The database URL that environment variables are put together to, and whether they can be told from it. The parts stand
in the URL as they are, with separators between them and nothing escaped. So they can be told from it exactly when no
part has a separator that stands beside it: a user or a password with a colon, say, gives the URL of another user with
another password.
-/
import SensorRegistry.Config
import SensorRegistry.Proofs.Text.Parted

namespace SensorRegistry.Config

/-- The parts of a database URL. -/
structure DatabaseParts where
  user : Text
  password : Text
  host : Text
  port : Text
  database : Text
  sslMode : Text
  deriving DecidableEq

namespace DatabaseParts

/-- The parts that an environment gives, if it sets the four that have no default. -/
def ofEnvironment? (env : Environment) : Option DatabaseParts := do
  let host ← env "PGHOST"
  let user ← env "PGUSER"
  let password ← env "PGPASSWORD"
  let database ← env "PGDATABASE"
  return {
    user, password, host, database
    port := (env "PGPORT").getD "5432".toList
    sslMode := (env "PGSSLMODE").getD "disable".toList }

/-- The environment that sets all parts and nothing else. -/
def environment (p : DatabaseParts) : Environment
  | "PGHOST" => some p.host
  | "PGPORT" => some p.port
  | "PGUSER" => some p.user
  | "PGPASSWORD" => some p.password
  | "PGDATABASE" => some p.database
  | "PGSSLMODE" => some p.sslMode
  | _ => none

theorem ofEnvironment?_environment (p : DatabaseParts) : ofEnvironment? p.environment = some p := rfl

/-! ## The URL of parts -/

/-- The parts behind the user, each with the separator in front of it. -/
def joints (p : DatabaseParts) : List (Text × Text) :=
  [([':'], p.password), (['@'], p.host), ([':'], p.port), (['/'], p.database), ("?sslmode=".toList, p.sslMode)]

def url (p : DatabaseParts) : Text := "postgres://".toList ++ Text.parted p.user p.joints

theorem url_eq (p : DatabaseParts) :
    p.url = "postgres://".toList ++ p.user ++ ':' :: p.password ++ '@' :: p.host ++ ':' :: p.port ++
      '/' :: p.database ++ "?sslmode=".toList ++ p.sslMode := by
  unfold url joints
  simp only [Text.parted, List.append_assoc, List.cons_append, List.nil_append]

theorem urlFromParts?_eq (env : Environment) : urlFromParts? env = (ofEnvironment? env).map url := by
  unfold urlFromParts? ofEnvironment?
  cases env "PGHOST" with
  | none => rfl
  | some host =>
    cases env "PGUSER" with
    | none => rfl
    | some user =>
      cases env "PGPASSWORD" with
      | none => rfl
      | some password =>
        cases env "PGDATABASE" with
        | none => rfl
        | some database =>
          simp only [Option.bind_eq_bind, Option.bind_some, Option.pure_def, Option.map_some]
          rw [url_eq]

theorem sharp_joints (p : DatabaseParts) : ∀ joint ∈ p.joints, Text.Sharp joint.1 := by
  have hsingle : ∀ c : Char, Text.Sharp [c] := fun c => ⟨c, [], rfl, List.not_mem_nil⟩
  have hmode : Text.Sharp "?sslmode=".toList := ⟨'?', "sslmode=".toList, by simp, by simp⟩
  simp only [joints, List.forall_mem_cons]
  exact ⟨hsingle ':', hsingle '@', hsingle ':', hsingle '/', hmode, by simp⟩

theorem joints_inj {p q : DatabaseParts} (huser : q.user = p.user) (hjoints : q.joints = p.joints) : q = p := by
  cases p
  cases q
  simp only [joints, List.cons.injEq, Prod.mk.injEq, true_and, and_true] at huser hjoints
  obtain ⟨rfl, rfl, rfl, rfl, rfl⟩ := hjoints
  rw [huser]

/-- Five parts with these separators are the joints of a URL. -/
theorem exists_joints (p : DatabaseParts) (user : Text) {rest : List (Text × Text)}
    (h : rest.map (·.1) = p.joints.map (·.1)) : ∃ q : DatabaseParts, q.user = user ∧ q.joints = rest := by
  simp only [joints, List.map_cons, List.map_nil, List.map_eq_cons_iff, List.map_eq_nil_iff] at h
  obtain ⟨⟨_, password⟩, _, rfl, rfl, ⟨_, host⟩, _, rfl, rfl, ⟨_, port⟩, _, rfl, rfl, ⟨_, database⟩, _, rfl, rfl,
    ⟨_, sslMode⟩, _, rfl, rfl, rfl⟩ := h
  exact ⟨⟨user, password, host, port, database, sslMode⟩, rfl, rfl⟩

/-- No other parts have the URL exactly when its text has one reading. -/
theorem forall_url_eq_iff (p : DatabaseParts) :
    (∀ q : DatabaseParts, q.url = p.url → q = p) ↔ Text.PartedOnce p.user p.joints := by
  constructor
  · intro h user rest hseps heq
    obtain ⟨q, rfl, rfl⟩ := p.exists_joints user hseps
    have hq : q = p := h q (congrArg ("postgres://".toList ++ ·) heq)
    rw [hq]
    exact ⟨rfl, rfl⟩
  · intro h q hq
    obtain ⟨huser, hjoints⟩ := h q.user q.joints rfl (List.append_cancel_left hq)
    exact joints_inj huser hjoints

/-- No part has a separator that stands beside it. -/
structure Separable (p : DatabaseParts) : Prop where
  user : ':' ∉ p.user
  password : ':' ∉ p.password ∧ '@' ∉ p.password
  host : '@' ∉ p.host ∧ ':' ∉ p.host
  port : ':' ∉ p.port ∧ '/' ∉ p.port
  database : '/' ∉ p.database ∧ ¬ "?sslmode=".toList <:+: p.database
  sslMode : ¬ "?sslmode=".toList <:+: p.sslMode

theorem apart_joints_iff (p : DatabaseParts) : Text.Apart p.user p.joints ↔ p.Separable := by
  have hmem : ∀ (c : Char) (s : Text), [c] <:+: s ↔ c ∈ s := List.singleton_infix_iff
  simp only [Text.Apart, joints, hmem, and_true]
  constructor
  · rintro ⟨hu, hp, hp', hh, hh', ho, ho', hd, hd', hs⟩
    exact ⟨hu, ⟨hp, hp'⟩, ⟨hh, hh'⟩, ⟨ho, ho'⟩, ⟨hd, hd'⟩, hs⟩
  · rintro ⟨hu, ⟨hp, hp'⟩, ⟨hh, hh'⟩, ⟨ho, ho'⟩, ⟨hd, hd'⟩, hs⟩
    exact ⟨hu, hp, hp', hh, hh', ho, ho', hd, hd', hs⟩

/-! ## Environments -/

/-- An environment with these parts shares its URL with no environment of other parts exactly when no part has a
separator that stands beside it. -/
theorem urlFromParts?_determines_iff (parts : DatabaseParts) :
    (∀ env env', ofEnvironment? env = some parts → urlFromParts? env' = urlFromParts? env →
      ofEnvironment? env' = some parts) ↔ parts.Separable := by
  rw [← apart_joints_iff, ← Text.partedOnce_iff parts.sharp_joints, ← forall_url_eq_iff]
  constructor
  · intro h q hq
    have hurl : urlFromParts? q.environment = urlFromParts? parts.environment := by
      rw [urlFromParts?_eq, urlFromParts?_eq, ofEnvironment?_environment, ofEnvironment?_environment, Option.map_some,
        Option.map_some, hq]
    have hparts := h parts.environment q.environment parts.ofEnvironment?_environment hurl
    rw [ofEnvironment?_environment] at hparts
    exact Option.some.inj hparts
  · intro h env env' hparts hurl
    rw [urlFromParts?_eq, urlFromParts?_eq, hparts, Option.map_some, Option.map_eq_some_iff] at hurl
    obtain ⟨q, hq, hurl⟩ := hurl
    rw [hq, h q hurl]

/-- A password with `@` names another host: the same URL is that of a shorter password and a longer host. -/
theorem urlFromParts?_determines_iff_password :
    let parts : DatabaseParts := ⟨"app".toList, "s3cret@backup".toList, "db".toList, "5432".toList, "sensors".toList,
      "disable".toList⟩
    let others : DatabaseParts := { parts with password := "s3cret".toList, host := "backup@db".toList }
    urlFromParts? others.environment = urlFromParts? parts.environment ∧ others ≠ parts ∧ ¬ parts.Separable := by
  intro parts others
  have hurl : urlFromParts? others.environment = urlFromParts? parts.environment := by decide +kernel
  have hne : others ≠ parts := by decide
  refine ⟨hurl, hne, fun hseparable => hne ?_⟩
  have hparts := (urlFromParts?_determines_iff parts).2 hseparable parts.environment others.environment
    parts.ofEnvironment?_environment hurl
  exact Option.some.inj (others.ofEnvironment?_environment.symm.trans hparts)

end DatabaseParts

end SensorRegistry.Config
