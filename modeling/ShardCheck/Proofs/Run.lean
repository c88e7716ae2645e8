import Mathlib.Tactic.Common
import ShardCheck.Log

/-!
# Runs and their logs

A run of the program looks at no event that was logged before: it only adds its own events to the
log. What such a run gives is therefore the same wherever it stands in a longer run, and the value
of a sequence of runs is the sequence of their values.
-/

namespace ShardCheck

namespace Run

variable {α β σ : Type}

/-- The result of a run that starts with a log. -/
def resume (r : Run α) (log : List LogEvent) : Except Halt α × List LogEvent := ExceptT.run r log

def value (r : Run α) : Except Halt α := (Run.result r).1

def events (r : Run α) : List LogEvent := (Run.result r).2

/-- The run only adds events to the log. -/
def IsAdding (r : Run α) : Prop := ∀ log, resume r log = (value r, log ++ events r)

/-! ### Single steps -/

@[simp] lemma value_pure (a : α) : value (pure a : Run α) = .ok a := rfl

lemma isAdding_pure (a : α) : IsAdding (pure a : Run α) := by
  intro log
  change (Except.ok a, log) = (Except.ok a, log ++ [])
  rw [List.append_nil]

lemma isAdding_throw (e : Halt) : IsAdding (throw e : Run α) := by
  intro log
  change (Except.error e, log) = (Except.error e, log ++ [])
  rw [List.append_nil]

@[simp] lemma value_liftM (x : Except RunError α) :
    value (liftM x : Run α) = x.mapError Halt.error := rfl

lemma isAdding_liftM (x : Except RunError α) : IsAdding (liftM x : Run α) := by
  intro log
  change (x.mapError Halt.error, log) = (x.mapError Halt.error, log ++ [])
  rw [List.append_nil]

/-! ### Sequences of runs -/

lemma resume_bind (r : Run α) (f : α → Run β) (log : List LogEvent) :
    resume (r >>= f) log =
      match resume r log with
      | (.ok a, log) => resume (f a) log
      | (.error e, log) => (.error e, log) := by
  change StateT.bind r (ExceptT.bindCont f) log = _
  simp only [StateT.bind, resume, ExceptT.run]
  cases r log with
  | mk x log => cases x <;> rfl

/-- A second run gives the same after the first one as by itself. -/
lemma value_bind (r : Run α) {f : α → Run β} (hf : ∀ a, IsAdding (f a)) :
    value (r >>= f) = value r >>= fun a => value (f a) := by
  have hr : resume r [] = (value r, events r) := rfl
  change (resume (r >>= f) []).1 = _
  rw [resume_bind, hr]
  cases value r with
  | error e => rfl
  | ok a => simp only [hf a (events r), bind, Except.bind]

/-- What two runs in sequence log from a log on. -/
lemma resume_bind_of_isAdding {r : Run α} {f : α → Run β} (hr : IsAdding r)
    (hf : ∀ a, IsAdding (f a)) (log : List LogEvent) :
    resume (r >>= f) log =
      match value r with
      | .ok a => (value (f a), log ++ (events r ++ events (f a)))
      | .error e => (.error e, log ++ events r) := by
  rw [resume_bind, hr log]
  cases value r with
  | error e => rfl
  | ok a =>
    have ha := hf a (log ++ events r)
    rw [List.append_assoc] at ha
    exact ha

lemma isAdding_bind {r : Run α} {f : α → Run β} (hr : IsAdding r) (hf : ∀ a, IsAdding (f a)) :
    IsAdding (r >>= f) := by
  intro log
  have hlog := resume_bind_of_isAdding hr hf log
  have hnil : (value (r >>= f), events (r >>= f)) = _ := resume_bind_of_isAdding hr hf []
  rw [hlog]
  cases hv : value r with
  | error e =>
    rw [hv] at hnil
    rw [(Prod.mk.inj hnil).1, (Prod.mk.inj hnil).2]
    rfl
  | ok a =>
    rw [hv] at hnil
    rw [(Prod.mk.inj hnil).1, (Prod.mk.inj hnil).2]
    rfl

/-- A run that fails logs nothing of what was to follow. -/
lemma events_bind_of_error {r : Run α} {f : α → Run β} (hr : IsAdding r)
    (hf : ∀ a, IsAdding (f a)) {e : Halt} (h : value r = .error e) :
    events (r >>= f) = events r := by
  have hlog := resume_bind_of_isAdding hr hf []
  rw [h] at hlog
  exact congrArg Prod.snd hlog

lemma events_bind_of_ok {r : Run α} {f : α → Run β} (hr : IsAdding r) (hf : ∀ a, IsAdding (f a))
    {a : α} (h : value r = .ok a) : events (r >>= f) = events r ++ events (f a) := by
  have hlog := resume_bind_of_isAdding hr hf []
  rw [h] at hlog
  exact congrArg Prod.snd hlog

lemma isAdding_foldlM {f : σ → α → Run σ} (hf : ∀ s a, IsAdding (f s a)) (as : List α) (s : σ) :
    IsAdding (as.foldlM f s) := by
  induction as generalizing s with
  | nil => exact isAdding_pure s
  | cons a as ih =>
    rw [List.foldlM_cons]
    exact isAdding_bind (hf s a) ih

/-- The value of a loop is the loop over the values of its rounds. -/
lemma value_foldlM {f : σ → α → Run σ} (hf : ∀ s a, IsAdding (f s a)) (as : List α) (s : σ) :
    value (as.foldlM f s) = as.foldlM (fun s a => value (f s a)) s := by
  induction as generalizing s with
  | nil => rfl
  | cons a as ih =>
    rw [List.foldlM_cons, List.foldlM_cons, value_bind _ (isAdding_foldlM hf as)]
    simp only [ih]

/-! ### Logging -/

/-- The run does nothing but log. -/
def IsLogging (r : Run Unit) : Prop := IsAdding r ∧ value r = .ok ()

lemma isLogging_pure : IsLogging (pure ()) := ⟨isAdding_pure (), rfl⟩

lemma isLogging_log (level : LogLevel) (message : String) (fields : List (String × FieldValue)) :
    IsLogging (log level message fields) :=
  ⟨fun _ => rfl, rfl⟩

lemma isLogging_bind {r r' : Run Unit} (h : IsLogging r) (h' : IsLogging r') :
    IsLogging (r >>= fun _ => r') := by
  refine ⟨isAdding_bind h.1 fun _ => h'.1, ?_⟩
  rw [value_bind r fun _ => h'.1, h.2]
  exact h'.2

/-! ### What is logged -/

def LogsOnly (p : LogEvent → Prop) (r : Run α) : Prop := ∀ event ∈ events r, p event

section LogsOnly

variable {p : LogEvent → Prop}

lemma logsOnly_pure (a : α) : LogsOnly p (pure a : Run α) := by
  intro event hevent
  cases hevent

lemma logsOnly_liftM (x : Except RunError α) : LogsOnly p (liftM x : Run α) := by
  intro event hevent
  cases hevent

lemma logsOnly_throw (e : Halt) : LogsOnly p (throw e : Run α) := by
  intro event hevent
  cases hevent

lemma logsOnly_log {level : LogLevel} {message : String} {fields : List (String × FieldValue)}
    (h : p ⟨level, message, fields⟩) : LogsOnly p (log level message fields) := by
  intro event hevent
  rw [List.mem_singleton.1 hevent]
  exact h

lemma logsOnly_bind {r : Run α} {f : α → Run β} (hr : IsAdding r) (hf : ∀ a, IsAdding (f a))
    (h : LogsOnly p r) (h' : ∀ a, value r = .ok a → LogsOnly p (f a)) : LogsOnly p (r >>= f) := by
  intro event hevent
  cases hvalue : value r with
  | error e =>
    rw [events_bind_of_error hr hf hvalue] at hevent
    exact h event hevent
  | ok a =>
    rw [events_bind_of_ok hr hf hvalue] at hevent
    rcases List.mem_append.1 hevent with hevent | hevent
    · exact h event hevent
    · exact h' a hvalue event hevent

lemma logsOnly_foldlM {f : σ → α → Run σ} (hf : ∀ s a, IsAdding (f s a)) {as : List α}
    (h : ∀ a ∈ as, ∀ s, LogsOnly p (f s a)) (s : σ) : LogsOnly p (as.foldlM f s) := by
  induction as generalizing s with
  | nil => exact logsOnly_pure s
  | cons a as ih =>
    rw [List.foldlM_cons]
    exact logsOnly_bind (hf s a) (isAdding_foldlM hf as) (h a List.mem_cons_self s)
      fun s' _ => ih (fun a' ha' => h a' (List.mem_cons_of_mem _ ha')) s'

end LogsOnly

section Load

variable {g : α → Run Unit} (hg : ∀ a, IsLogging (g a)) (x : Except RunError α) (f : α → β)

include hg

lemma isAdding_load : IsAdding (liftM x >>= fun a => g a >>= fun _ => pure (f a) : Run β) :=
  isAdding_bind (isAdding_liftM x) fun a => isAdding_bind (hg a).1 fun _ => isAdding_pure (f a)

/-- What is loaded decides what such a run gives, not what is logged about it. -/
lemma value_load : value (liftM x >>= fun a => g a >>= fun _ => pure (f a) : Run β) =
    (x.mapError Halt.error).map f := by
  have hrest : ∀ a, value (g a >>= fun _ => pure (f a)) = .ok (f a) := fun a => by
    rw [value_bind _ fun _ => isAdding_pure (f a), (hg a).2]
    rfl
  rw [value_bind _ fun a => isAdding_bind (hg a).1 fun _ => isAdding_pure (f a), value_liftM]
  simp only [hrest]
  cases x with
  | error e => rfl
  | ok a => rfl

lemma logsOnly_load {p : LogEvent → Prop} (h : ∀ a, LogsOnly p (g a)) :
    LogsOnly p (liftM x >>= fun a => g a >>= fun _ => pure (f a) : Run β) :=
  logsOnly_bind (isAdding_liftM x)
    (fun a => isAdding_bind (hg a).1 fun _ => isAdding_pure (f a)) (logsOnly_liftM x) fun a _ =>
      logsOnly_bind (hg a).1 (fun _ => isAdding_pure (f a)) (h a) fun _ _ => logsOnly_pure (f a)

end Load

end Run

end ShardCheck
