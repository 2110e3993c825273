/-
Environment variables and what they give. A variable is checked if some of its texts name nothing; the checks follow
each other, and the first faulty variable is reported. A check says of its variable what it gives, or that it is
faulty, and the step lemma `Reads.bind` puts it in front of the checks behind it.
-/
import SensorRegistry.Config
import SensorRegistry.Proofs.Number.Integer
import Mathlib.Tactic.SplitIfs

namespace SensorRegistry.Config

/-! ## Variables -/

/-- A variable with what its texts name and the standard value. -/
structure Variable (α : Type) where
  name : String
  Names : Text → α → Prop
  unique : ∀ {raw a b}, Names raw a → Names raw b → a = b
  otherwise : α

namespace Variable

variable {α β : Type} {v : Variable α} {env env' : Environment}

/-- The value that the variable gives: what its text names, or the standard value where it is not set. -/
inductive Gives (v : Variable α) (env : Environment) : α → Prop
  | unset : env v.name = none → Gives v env v.otherwise
  | given {raw : Text} {a : α} : env v.name = some raw → v.Names raw a → Gives v env a

/-- The variable is set to a text that names nothing. -/
def Faulty (v : Variable α) (env : Environment) : Prop := ∃ raw, env v.name = some raw ∧ ∀ a, ¬ v.Names raw a

theorem Gives.not_faulty {a : α} (h : v.Gives env a) : ¬ v.Faulty env := by
  rintro ⟨raw, hraw, hnames⟩
  cases h with
  | unset hnone => rw [hnone] at hraw; cases hraw
  | given hsome ha =>
    rw [hsome] at hraw
    cases hraw
    exact hnames _ ha

theorem Gives.congr {a a' : α} (h : v.Gives env a) (h' : v.Gives env' a') (henv : env' v.name = env v.name) :
    a' = a := by
  cases h with
  | unset hnone =>
    cases h' with
    | unset => rfl
    | given hsome => rw [henv, hnone] at hsome; cases hsome
  | given hsome ha =>
    cases h' with
    | unset hnone => rw [henv, hsome] at hnone; cases hnone
    | given hsome' ha' =>
      rw [henv, hsome] at hsome'
      cases hsome'
      exact v.unique ha' ha

/-! ## The variables that are read -/

/-- An integer of the range, with white space around it. -/
def integer (name : String) (range : IntegerRange) (hzero : range.contains 0 = true) (otherwise : Int) :
    Variable Int where
  name := name
  Names raw n := range.Spelled (Text.trim raw) n
  unique h h' := by
    rw [← IntegerRange.read_eq_ok_iff hzero] at h h'
    exact Except.ok.inj (h.symm.trans h')
  otherwise := otherwise

/-- A text that stands for itself. -/
def text (name : String) (otherwise : Text) : Variable Text where
  name := name
  Names raw a := a = raw
  unique h h' := h.trans h'.symm
  otherwise := otherwise

def poolSize : Variable Int := integer "DATABASE_POOL_SIZE" .word32 (by decide) standard.database.poolSize

def scheme : Variable Text := text "API_SCHEME" standard.server.scheme

def host : Variable Text := text "HOST" standard.server.host

def port : Variable Int := integer "PORT" .word16 (by decide) standard.server.port

def logLevel : Variable Text := text "LOG_LEVEL" standard.logging.level

/-- The log format has a name in any case; the empty name is one of the text format. -/
def logFormat : Variable LogFormat where
  name := "LOG_FORMAT"
  Names raw format :=
    (Text.lowercase raw = "json".toList ∧ format = .json) ∨
      ((Text.lowercase raw = "text".toList ∨ Text.lowercase raw = []) ∧ format = .text)
  unique := by
    rintro raw a b (⟨h, rfl⟩ | ⟨h, rfl⟩) (⟨h', rfl⟩ | ⟨h', rfl⟩)
    · rfl
    · rw [h] at h'
      exact absurd h' (by decide)
    · rw [h'] at h
      exact absurd h (by decide)
    · rfl
  otherwise := standard.logging.format

def sensorsMaxLimit : Variable Int := integer "SENSORS_MAX_LIMIT" .int64 (by decide) standard.paging.sensorsMaxLimit

def metricsMaxLimit : Variable Int := integer "METRICS_MAX_LIMIT" .int64 (by decide) standard.paging.metricsMaxLimit

/-- The variables that are checked, in the order of the checks. -/
def checked : List ((α : Type) × Variable α) :=
  [⟨Int, poolSize⟩, ⟨Int, port⟩, ⟨LogFormat, logFormat⟩, ⟨Int, sensorsMaxLimit⟩, ⟨Int, metricsMaxLimit⟩]

/-! ## Checks -/

/-- A reading gives what the variable gives, and its fault names the variable. -/
structure Reads (v : Variable α) (env : Environment) (r : Except Fault α) : Prop where
  ok_iff : ∀ a, r = .ok a ↔ v.Gives env a
  name : ∀ fault, r = .error fault → fault.name = v.name.toList

theorem Reads.faulty {fault : Fault} (h : v.Reads env (.error fault)) : v.Faulty env := by
  have hgives : ∀ a, ¬ v.Gives env a := by
    intro a ha
    cases (h.ok_iff a).2 ha
  cases hraw : env v.name with
  | none => exact absurd (.unset hraw) (hgives _)
  | some raw => exact ⟨raw, hraw, fun a ha => hgives a (.given hraw ha)⟩

/-- The first faulty one of the variables has this name. -/
def FirstFaulty (env : Environment) (vs : List ((α : Type) × Variable α)) (name : Text) : Prop :=
  ∃ before v after, vs = before ++ v :: after ∧ v.2.Faulty env ∧ (∀ u ∈ before, ¬ u.2.Faulty env) ∧
    v.2.name.toList = name

/-- The outcome of checking variables: a value if none is faulty, else a fault that names the first one. -/
inductive Checks (env : Environment) (vs : List ((α : Type) × Variable α)) : Except Fault β → Prop
  | ok {a : β} : (∀ v ∈ vs, ¬ v.2.Faulty env) → Checks env vs (.ok a)
  | error {fault : Fault} : FirstFaulty env vs fault.name → Checks env vs (.error fault)

/-- A check comes in front of others: its own fault ends the checks, and otherwise theirs is reported. -/
theorem Reads.bind {r : Except Fault α} {k : α → Except Fault β} {vs : List ((α : Type) × Variable α)}
    (h : v.Reads env r) (hk : ∀ a, Checks env vs (k a)) : Checks env (⟨α, v⟩ :: vs) (r >>= k) := by
  cases r with
  | error fault => exact .error ⟨[], ⟨α, v⟩, vs, rfl, h.faulty, by simp, (h.name fault rfl).symm⟩
  | ok a =>
    have hv : ¬ v.Faulty env := ((h.ok_iff a).1 rfl).not_faulty
    have hrest := hk a
    show Checks env (⟨α, v⟩ :: vs) (k a)
    generalize k a = outcome at hrest ⊢
    cases hrest with
    | ok hrest => exact .ok (List.forall_mem_cons.2 ⟨hv, hrest⟩)
    | error hrest =>
      obtain ⟨before, u, after, rfl, hu, hbefore, hname⟩ := hrest
      exact .error ⟨⟨α, v⟩ :: before, u, after, rfl, hu, List.forall_mem_cons.2 ⟨hv, hbefore⟩, hname⟩

theorem Reads.bind_eq_ok_iff {r : Except Fault α} {k : α → Except Fault β} {b : β} (h : v.Reads env r) :
    (r >>= k) = .ok b ↔ ∃ a, v.Gives env a ∧ k a = .ok b := by
  constructor
  · intro hbind
    cases r with
    | error fault => cases hbind
    | ok a => exact ⟨a, (h.ok_iff a).1 rfl, hbind⟩
  · rintro ⟨a, ha, hk⟩
    rw [(h.ok_iff a).2 ha]
    exact hk

/-- What a variable gives is read from its text, if the text is read as what it names. -/
theorem Reads.of_text {read : Text → Except Fault α}
    (hnames : ∀ raw a, read raw = .ok a ↔ v.Names raw a)
    (hname : ∀ raw fault, read raw = .error fault → fault.name = v.name.toList) :
    v.Reads env (match env v.name with | none => .ok v.otherwise | some raw => read raw) := by
  constructor
  · intro a
    constructor
    · intro h
      split at h
      · rename_i hnone
        cases h
        exact .unset hnone
      · rename_i raw hsome
        exact .given hsome ((hnames raw a).1 h)
    · intro h
      cases h with
      | unset hnone => rw [hnone]
      | given hsome ha =>
        rw [hsome]
        exact (hnames _ a).2 ha
  · intro fault h
    split at h
    · cases h
    · exact hname _ fault h

theorem reads_integer (name : String) {range : IntegerRange} (hzero : range.contains 0 = true) (otherwise : Int)
    (env : Environment) : (integer name range hzero otherwise).Reads env (readInteger env range name otherwise) := by
  refine Reads.of_text (v := integer name range hzero otherwise) (fun raw n => ?_) fun raw fault h => ?_
  · show _ ↔ range.Spelled (Text.trim raw) n
    rw [← IntegerRange.read_eq_ok_iff hzero]
    cases range.read (Text.trim raw) <;> simp [Except.mapError]
  · cases hread : range.read (Text.trim raw) with
    | error reason => rw [hread] at h; cases h; rfl
    | ok n => rw [hread] at h; cases h

theorem ok_eq_ok_iff {raw : Text} {a : α} (h : v.Names raw a) (b : α) :
    (.ok a : Except Fault α) = .ok b ↔ v.Names raw b :=
  ⟨fun hb => Except.ok.inj hb ▸ h, fun hb => congrArg Except.ok (v.unique h hb)⟩

theorem reads_logFormat (env : Environment) : logFormat.Reads env (readFormat env) := by
  refine Reads.of_text (v := logFormat) (fun raw format => ?_) fun raw fault h => ?_
  · dsimp only
    split_ifs with hjson htext
    · exact ok_eq_ok_iff (v := logFormat) (.inl ⟨hjson, rfl⟩) format
    · exact ok_eq_ok_iff (v := logFormat) (.inr ⟨htext, rfl⟩) format
    · constructor
      · intro h
        cases h
      · rintro (⟨h, -⟩ | ⟨h, -⟩)
        · exact absurd h hjson
        · exact absurd h htext
  · dsimp only at h
    split_ifs at h
    cases h
    rfl

end Variable

end SensorRegistry.Config
