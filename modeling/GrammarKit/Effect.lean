/-
# Effects of a run

Running a parser does more than give a result.  It can end in a fault; it writes a trace of the
named parsers while tracing is on; and it can itself turn tracing on or off.  `Effect` is the
type of such computations: from the tracing flag at its start it gives the outcome, the
flag at its end and the list of events in between, and it does so also when it ends in a
fault.

An event belongs to the trace only if it can be written; one that cannot is a fault in its place.

Effects form a lawful monad, so that the order of events follows the order of the steps.
-/
import GrammarKit.Value.Written

namespace GrammarKit

/-- Something that happens during a run and can be seen from outside. -/
inductive Event where
  /-- A named parser was started on an input. -/
  | tried (name : Text) (input : Value)
  /-- A named parser matched. -/
  | matched (name : Text) (value rest : Value)
  /-- A named parser failed. -/
  | failed (name : Text) (message : Value)
  /-- An observed parser was started on an input. -/
  | called (label : Text) (input : Value)
  /-- A line was printed. -/
  | printed (line : Text)
  /-- A warning was given. -/
  | warned (message : Text)

namespace Event

/-- The message of an event that belongs to the trace. -/
def trace? : Event → Option Text
  | tried name input => some ("trying ".toList ++ name ++ " on ".toList ++ input.literal)
  | matched name value rest =>
    some (name ++ " matched ".toList ++ value.literal ++ ", rest ".toList ++ rest.literal)
  | failed name message => some (name ++ " failed: ".toList ++ message.display)
  | _ => none

/-- Whether the values that the message of an event shows can be written. -/
def isWritable : Event → Bool
  | tried _ input => input.isWritable
  | matched _ value rest => value.isWritable && rest.isWritable
  | failed _ message => message.isWritable
  | _ => true

/-- The label and the input of an event that belongs to the record of calls. -/
def call? : Event → Option (Text × Value)
  | called label input => some (label, input)
  | _ => none

/-- The line of an event that belongs to the output. -/
def line? : Event → Option Text
  | printed line => some line
  | _ => none

end Event

/-- What running an effect comes to. -/
structure Run (α : Type) where
  /-- The value of the effect, or the fault that ended it. -/
  outcome : Except Fault α
  /-- Whether tracing is on at the end. -/
  tracing : Bool
  /-- What happened, in order. -/
  events : List Event

namespace Run

variable {α β : Type}

/-- The run with a function applied to its value. -/
def map (f : α → β) (r : Run α) : Run β :=
  ⟨r.outcome.map f, r.tracing, r.events⟩

/-- The trace of a run. -/
def trace (r : Run α) : List Text :=
  r.events.filterMap Event.trace?

/-- The record of the calls of observed parsers. -/
def calls (r : Run α) : List (Text × Value) :=
  r.events.filterMap Event.call?

/-- The lines that were printed. -/
def printed (r : Run α) : List Text :=
  r.events.filterMap Event.line?

end Run

/-- A computation that starts with tracing on or off. -/
def Effect (α : Type) : Type :=
  Bool → Run α

namespace Effect

variable {α β : Type}

@[ext] theorem ext {x y : Effect α} (h : ∀ tracing, x tracing = y tracing) : x = y :=
  funext h

/-- Goes on with the outcome of a run, unless it is a fault. -/
def continueWith (r : Run α) (k : α → Effect β) : Run β :=
  match r.outcome with
  | .error fault => ⟨.error fault, r.tracing, r.events⟩
  | .ok a =>
    let s := k a r.tracing
    ⟨s.outcome, s.tracing, r.events ++ s.events⟩

instance : Monad Effect where
  pure a := fun tracing => ⟨.ok a, tracing, []⟩
  bind x k := fun tracing => continueWith (x tracing) k
  map f x := fun tracing => (x tracing).map f

theorem pure_run (a : α) (tracing : Bool) :
    (pure a : Effect α) tracing = ⟨.ok a, tracing, []⟩ := rfl

theorem bind_run (x : Effect α) (k : α → Effect β) (tracing : Bool) :
    (x >>= k) tracing = continueWith (x tracing) k := rfl

theorem map_run (f : α → β) (x : Effect α) (tracing : Bool) :
    (f <$> x) tracing = (x tracing).map f := rfl

@[simp] theorem continueWith_ok (a : α) (tracing : Bool) (events : List Event)
    (k : α → Effect β) :
    continueWith ⟨.ok a, tracing, events⟩ k =
      ⟨(k a tracing).outcome, (k a tracing).tracing, events ++ (k a tracing).events⟩ := rfl

@[simp] theorem continueWith_error (fault : Fault) (tracing : Bool) (events : List Event)
    (k : α → Effect β) :
    continueWith ⟨.error fault, tracing, events⟩ k = ⟨.error fault, tracing, events⟩ := rfl

theorem id_map_run (x : Effect α) : id <$> x = x := by
  ext tracing
  show (x tracing).map id = x tracing
  rcases x tracing with ⟨_ | a, t, es⟩ <;> rfl

theorem pure_bind_run (a : α) (k : α → Effect β) : pure a >>= k = k a := by
  ext tracing
  simp [bind_run, pure_run]

theorem bind_assoc_run {γ : Type} (x : Effect α) (k : α → Effect β) (l : β → Effect γ) :
    x >>= k >>= l = x >>= fun a => k a >>= l := by
  ext tracing
  simp only [bind_run]
  rcases x tracing with ⟨_ | a, t, es⟩
  · rfl
  · simp only [continueWith_ok, bind_run]
    rcases k a t with ⟨_ | b, u, fs⟩ <;> simp

theorem bind_pure_comp_run (f : α → β) (x : Effect α) :
    (x >>= fun a => pure (f a)) = f <$> x := by
  ext tracing
  simp only [bind_run, map_run]
  rcases x tracing with ⟨_ | a, t, es⟩
  · rfl
  · simp [pure_run, Run.map, Except.map]

instance : LawfulMonad Effect where
  map_const := rfl
  id_map := id_map_run
  seqLeft_eq x y := by
    show (x >>= fun a => y >>= fun _ => pure a) = (Function.const _ <$> x) >>= fun f => f <$> y
    rw [← bind_pure_comp_run, bind_assoc_run]
    simp [pure_bind_run, ← bind_pure_comp_run, Function.const]
  seqRight_eq x y := by
    show (x >>= fun _ => y) = (Function.const _ id <$> x) >>= fun f => f <$> y
    rw [← bind_pure_comp_run, bind_assoc_run]
    simp [pure_bind_run, id_map_run, Function.const]
  pure_seq f x := pure_bind_run f fun g => g <$> x
  bind_pure_comp := bind_pure_comp_run
  bind_map _ _ := rfl
  pure_bind := pure_bind_run
  bind_assoc := bind_assoc_run

/-- Ends in a fault. -/
def raise (fault : Fault) : Effect α :=
  fun tracing => ⟨.error fault, tracing, []⟩

/-- The value of a computation that can only fail. -/
def ofExcept (x : Except Fault α) : Effect α :=
  fun tracing => ⟨x, tracing, []⟩

/-- Lets an event happen. -/
def emit (event : Event) : Effect Unit :=
  fun tracing => ⟨.ok (), tracing, [event]⟩

/-- Adds an event to the trace. -/
def trace (event : Event) : Effect Unit :=
  if event.isWritable then emit event else raise .untraceable

/-- Whether tracing is on. -/
def isTracing : Effect Bool :=
  fun tracing => ⟨.ok tracing, tracing, []⟩

/-- Turns tracing on or off. -/
def setTracing (on : Bool) : Effect Unit :=
  fun _ => ⟨.ok (), on, []⟩

/-- Runs an effect with tracing on or off, and leaves the flag as it was before, also after a
fault. -/
def withTracing (on : Bool) (x : Effect α) : Effect α :=
  fun tracing => ⟨(x on).outcome, tracing, (x on).events⟩

end Effect

end GrammarKit
