/-
Who is to blame for a failure, and what the client is told. Every layer sorts its failures on its own: queries,
the store, the service, and at last the status code. They agree, because the service answers exactly the failures
that the store does not blame on the client as internal ones.

An internal fault has one response, whatever its text. So of a failure of the service a client sees neither a
statement nor a template nor what the database said, on whichever way the failure came.
-/
import SensorRegistry.Api.Service
import Mathlib.Tactic.SplitIfs

namespace SensorRegistry

/-! ## Status codes -/

/-- The status says that the client made the mistake. -/
def Status.BlamesClient (s : Status) : Prop := 400 ≤ s.code ∧ s.code ≤ 499

instance (s : Status) : Decidable s.BlamesClient := inferInstanceAs (Decidable (_ ∧ _))

namespace ApiFault

/-- The response to every fault of the service itself. -/
def internalResponse : Response := (internal []).response

theorem response_internal (message : Text) : (internal message).response = internalResponse := rfl

theorem status_response (f : ApiFault) : f.response.status = f.status := rfl

theorem blamesClient_or_internal (f : ApiFault) : f.status.BlamesClient ∨ ∃ message, f = .internal message := by
  cases f with
  | notFound message => exact .inl (show Status.notFound.BlamesClient by decide)
  | validation problems => exact .inl (show Status.badRequest.BlamesClient by decide)
  | badRequest message => exact .inl (show Status.badRequest.BlamesClient by decide)
  | conflict message => exact .inl (show Status.conflict.BlamesClient by decide)
  | internal message => exact .inr ⟨message, rfl⟩

theorem not_blamesClient_internal (message : Text) : ¬ (internal message).status.BlamesClient :=
  show ¬ Status.internalServerError.BlamesClient by decide

/-- A fault that is not blamed on the client has the one response. -/
theorem response_eq_internalResponse {f : ApiFault} (h : ¬ f.status.BlamesClient) : f.response = internalResponse := by
  rcases f.blamesClient_or_internal with hclient | ⟨message, rfl⟩
  · exact absurd hclient h
  · exact response_internal message

theorem blamesClient_ofQueryFault_iff (fault : QueryFault) :
    (ofQueryFault fault).status.BlamesClient ↔ fault.isClientFault = true := by
  cases fault with
  | request problems => exact iff_of_true (show Status.badRequest.BlamesClient by decide) rfl
  | template fault => exact iff_of_false (not_blamesClient_internal _) Bool.false_ne_true

/-- The service blames the client exactly when the store does. -/
theorem blamesClient_ofStoreFault_iff (fault : StoreFault) :
    (ofStoreFault fault).status.BlamesClient ↔ fault.isClientFault = true := by
  cases fault with
  | notFound resource id => exact iff_of_true (show Status.notFound.BlamesClient by decide) rfl
  | conflict resource id => exact iff_of_true (show Status.conflict.BlamesClient by decide) rfl
  | constraint message => exact iff_of_true (show Status.badRequest.BlamesClient by decide) rfl
  | query fault => exact blamesClient_ofQueryFault_iff fault
  | database fault => exact iff_of_false (not_blamesClient_internal _) Bool.false_ne_true

theorem response_ofStoreFault {fault : StoreFault} (h : fault.isClientFault = false) :
    (ofStoreFault fault).response = internalResponse := by
  apply response_eq_internalResponse
  rw [blamesClient_ofStoreFault_iff, h]
  exact Bool.false_ne_true

/-- The record of a rejected request: the messages of its problems, in full and in their order. Without problems there
is no list of them. -/
def rejection (problems : List Problem) : Json :=
  .object ([(some "status".toList, .integer 400), (some "title".toList, .string (some "Bad Request".toList)),
      (some "detail".toList, .string (some "validation failed".toList))]
    ++ if problems.isEmpty then []
      else [(some "errors".toList, .array (problems.map fun p => .string (some p.message)))])

theorem toJson_validation (problems : List Problem) : (validation problems).toJson = rejection problems := by
  cases problems with
  | nil => rfl
  | cons p problems =>
    rw [toJson, show (validation (p :: problems)).problems = (p :: problems).map (·.message) from rfl, List.map_map]
    rfl

theorem response_request (problems : List Problem) :
    (ofStoreFault (.query (.request problems))).response =
      ⟨.badRequest, [("content-type".toList, "application/json".toList)], .json (rejection problems)⟩ := by
  rw [← toJson_validation]
  rfl

end ApiFault

/-! ## Writes -/

namespace StoreFault

theorem code?_eq_some_iff {d : DatabaseFault} {code : Text} :
    d.code? = some code ↔ ∃ message, d = .rejected (some code) message := by
  constructor
  · intro h
    cases d with
    | rejected c message => exact ⟨message, congrArg (DatabaseFault.rejected · message) h⟩
    | noRow | undecodable | poolTimedOut | poolClosed | other message => cases h
  · rintro ⟨message, rfl⟩
    rfl

/-- A failed write ends in one of three ways, by the code that the database gives. -/
theorem ofWrite_cases (d : DatabaseFault) (resource id : Text) :
    (d.code? = some uniqueViolation ∧ ofWrite d resource id = .conflict resource id) ∨
    ((d.code? = some notNullViolation ∨ d.code? = some foreignKeyViolation) ∧
      ofWrite d resource id = .constraint d.message) ∨
    (d.code? ≠ some uniqueViolation ∧ d.code? ≠ some notNullViolation ∧ d.code? ≠ some foreignKeyViolation ∧
      ofWrite d resource id = .database d) := by
  unfold ofWrite
  split_ifs with hunique hmissing
  · exact .inl ⟨hunique, rfl⟩
  · exact .inr (.inl ⟨hmissing, rfl⟩)
  · rw [not_or] at hmissing
    exact .inr (.inr ⟨hunique, hmissing.1, hmissing.2, rfl⟩)

theorem isClientFault_ofWrite_iff (d : DatabaseFault) (resource id : Text) :
    (ofWrite d resource id).isClientFault = true ↔
      d.code? = some uniqueViolation ∨ d.code? = some notNullViolation ∨ d.code? = some foreignKeyViolation := by
  rcases ofWrite_cases d resource id with ⟨hcode, hfault⟩ | ⟨hcode, hfault⟩ | ⟨hunique, hnull, hkey, hfault⟩
  · exact iff_of_true (by rw [hfault]; rfl) (.inl hcode)
  · exact iff_of_true (by rw [hfault]; rfl) (.inr hcode)
  · refine iff_of_false (by rw [hfault]; exact Bool.false_ne_true) ?_
    rintro (hcode | hcode | hcode)
    · exact hunique hcode
    · exact hnull hcode
    · exact hkey hcode

theorem ofWrite_eq_conflict_iff (d : DatabaseFault) (resource id : Text) :
    ofWrite d resource id = .conflict resource id ↔ d.code? = some uniqueViolation := by
  rcases ofWrite_cases d resource id with ⟨hcode, hfault⟩ | ⟨hcode, hfault⟩ | ⟨hunique, -, -, hfault⟩
  · exact iff_of_true hfault hcode
  · refine iff_of_false (by rw [hfault]; exact nofun) ?_
    rcases hcode with hcode | hcode
    · rw [hcode]
      decide
    · rw [hcode]
      decide
  · exact iff_of_false (by rw [hfault]; exact nofun) hunique

theorem ofWrite_eq_constraint_iff (d : DatabaseFault) (resource id : Text) :
    ofWrite d resource id = .constraint d.message ↔
      d.code? = some notNullViolation ∨ d.code? = some foreignKeyViolation := by
  rcases ofWrite_cases d resource id with ⟨hcode, hfault⟩ | ⟨hcode, hfault⟩ | ⟨-, hnull, hkey, hfault⟩
  · refine iff_of_false (by rw [hfault]; exact nofun) ?_
    rw [hcode]
    decide
  · exact iff_of_true hfault hcode
  · exact iff_of_false (by rw [hfault]; exact nofun) (not_or.2 ⟨hnull, hkey⟩)

/-! ## The store and the service -/

/-- The store and the service agree on whom to blame, a failed write is blamed on the client for three codes only,
problems with a request are told in full and as JSON, and the failures that are not blamed on the client are told apart
by nothing in the response. -/
theorem blame_agrees :
    (∀ fault : StoreFault, fault.isClientFault = true ↔ (ApiFault.ofStoreFault fault).status.BlamesClient) ∧
    (∀ d resource id,
      ((ofWrite d resource id).isClientFault = true ↔ ∃ code message, d = .rejected (some code) message ∧
        (code = "23505".toList ∨ code = "23502".toList ∨ code = "23503".toList)) ∧
      (ofWrite d resource id = .conflict resource id ↔ ∃ message, d = .rejected (some "23505".toList) message) ∧
      (ofWrite d resource id = .constraint d.message ↔ ∃ code message, d = .rejected (some code) message ∧
        (code = "23502".toList ∨ code = "23503".toList))) ∧
    (∀ problems, let answer := (ApiFault.ofStoreFault (.query (.request problems))).response
      answer.status.code = 400 ∧ answer.headers = [("content-type".toList, "application/json".toList)] ∧
        answer.body = .json (ApiFault.rejection problems)) ∧
    (∀ f g : StoreFault, f.isClientFault = false → g.isClientFault = false →
      (ApiFault.ofStoreFault f).response = (ApiFault.ofStoreFault g).response) := by
  refine ⟨fun fault => (ApiFault.blamesClient_ofStoreFault_iff fault).symm, fun d resource id => ⟨?_, ?_, ?_⟩,
    fun problems => ?_, fun f g hf hg => ?_⟩
  · simp only [isClientFault_ofWrite_iff, code?_eq_some_iff]
    constructor
    · rintro (⟨message, rfl⟩ | ⟨message, rfl⟩ | ⟨message, rfl⟩)
      · exact ⟨_, message, rfl, .inl rfl⟩
      · exact ⟨_, message, rfl, .inr (.inl rfl)⟩
      · exact ⟨_, message, rfl, .inr (.inr rfl)⟩
    · rintro ⟨code, message, rfl, rfl | rfl | rfl⟩
      · exact .inl ⟨message, rfl⟩
      · exact .inr (.inl ⟨message, rfl⟩)
      · exact .inr (.inr ⟨message, rfl⟩)
  · rw [ofWrite_eq_conflict_iff, code?_eq_some_iff]
    rfl
  · simp only [ofWrite_eq_constraint_iff, code?_eq_some_iff]
    constructor
    · rintro (⟨message, rfl⟩ | ⟨message, rfl⟩)
      · exact ⟨_, message, rfl, .inl rfl⟩
      · exact ⟨_, message, rfl, .inr rfl⟩
    · rintro ⟨code, message, rfl, rfl | rfl⟩
      · exact .inl ⟨message, rfl⟩
      · exact .inr ⟨message, rfl⟩
  · rw [ApiFault.response_request]
    exact ⟨rfl, rfl, rfl⟩
  · rw [ApiFault.response_ofStoreFault hf, ApiFault.response_ofStoreFault hg]

/-- A rejected statement and a template without a table get one response, though their messages differ. -/
theorem blame_agrees_template :
    let rejected := StoreFault.database (.rejected (some "42P01".toList) "no relation keys".toList)
    let template := StoreFault.query (.template (.missingFrom "SELECT 1".toList))
    rejected.isClientFault = false ∧ template.isClientFault = false ∧ rejected.message ≠ template.message ∧
      (ApiFault.ofStoreFault rejected).response = (ApiFault.ofStoreFault template).response ∧
      (ApiFault.ofStoreFault template).response = ⟨.internalServerError,
        [("content-type".toList, "application/json".toList)],
        .json (.object [(some "status".toList, .integer 500),
          (some "title".toList, .string (some "Internal Server Error".toList)),
          (some "detail".toList, .string (some "Internal server error".toList))])⟩ :=
  ⟨rfl, rfl, by decide, blame_agrees.2.2.2 _ _ rfl rfl, rfl⟩

end StoreFault

/-! ## Replies of the service -/

namespace Reply

/-- A reply that says nothing about a fault of the service but that there is one. -/
def Discreet (reply : Reply) : Prop :=
  reply.response.status = .internalServerError → reply.response = ApiFault.internalResponse

theorem discreet_of_ne {reply : Reply} (h : reply.response.status ≠ .internalServerError) : reply.Discreet :=
  fun hstatus => absurd hstatus h

theorem discreet_refused (fault : ApiFault) : (refused fault).Discreet := by
  intro hstatus
  apply ApiFault.response_eq_internalResponse
  rw [← ApiFault.status_response, show fault.response.status = .internalServerError from hstatus]
  decide

/-- A failed operation is answered discreetly, whatever the database said. -/
theorem discreet_ofExchange {e : Exchange α} {success : α → Response}
    (h : ∀ a, (success a).status ≠ .internalServerError) : (ofExchange e success).Discreet := by
  unfold ofExchange
  cases e.result with
  | ok a => exact discreet_of_ne (h a)
  | error fault => exact discreet_refused (ApiFault.ofStoreFault fault)

end Reply

namespace Service

variable {s : Service}

theorem discreet_withDatabase {reply : Database → Reply} (h : ∀ db, (reply db).Discreet) :
    (s.withDatabase reply).Discreet := by
  unfold withDatabase
  cases s.database with
  | none => exact Reply.discreet_refused _
  | some db => exact h db

theorem discreet_list (e : ListEndpoint) (query : Database → Scope → Scope × Exchange (List α)) (toJson : α → Json)
    (r : ListRequest) : (s.list e query toJson r).Discreet := by
  unfold list
  cases e.openScope r with
  | error problems => exact Reply.discreet_refused _
  | ok scope =>
    apply discreet_withDatabase
    intro db
    exact Reply.discreet_ofExchange fun rows => nofun

theorem discreet_store {status : Status} (hstatus : status ≠ .internalServerError)
    (write : Database → SensorDraft → Exchange Sensor) (r : Request) : (s.store status write r).Discreet := by
  unfold store
  cases draft r with
  | error fault => exact Reply.discreet_refused fault
  | ok draft =>
    apply discreet_withDatabase
    intro db
    exact Reply.discreet_ofExchange fun row => hstatus

theorem discreet_delete (segment : Text) : (s.delete segment).Discreet := by
  unfold delete
  cases Text.Utf8.decode? (Text.percentBytes segment) with
  | none => exact Reply.discreet_of_ne nofun
  | some id =>
    dsimp only
    split_ifs
    · apply discreet_withDatabase
      intro db
      exact Reply.discreet_ofExchange fun _ => nofun
    · exact Reply.discreet_refused _

theorem discreet_perform (now : Int) (r : Request) (action : Action) : (s.perform now r action).Discreet := by
  cases action with
  | listSensors | listMetrics => exact discreet_list _ _ _ _
  | createSensor => exact discreet_store (show Status.created ≠ .internalServerError by decide) _ _
  | replaceSensor => exact discreet_store (show Status.ok ≠ .internalServerError by decide) _ _
  | deleteSensor segment => exact discreet_delete segment

/-- Whatever goes wrong in a service, with whatever database, a client sees the one response. -/
theorem response_of_internalServerError {now : Int} {r : Request}
    (h : (s.reply now r).response.status = .internalServerError) :
    (s.reply now r).response =
      if r.method = "HEAD".toList then ApiFault.internalResponse.withoutBody else ApiFault.internalResponse := by
  revert h
  unfold reply
  split
  · exact nofun
  · split
    · exact nofun
    · rename_i action _
      have hdiscreet : (s.perform now r action).Discreet := discreet_perform now r action
      split_ifs
      · exact fun h => congrArg Response.withoutBody (hdiscreet h)
      · exact hdiscreet

end Service

end SensorRegistry
