/-
# Repetition

A parser is repeated until it fails, or until it succeeds without taking anything: the
repetition would go on forever otherwise.  `repeated` runs such a round of attempts and reports
the values, the input that the last attempt started from, and how it ended.  As every attempt
but the last leaves a shorter input, the rounds are bounded by the length of the input.

`manyM` makes a parser of it that asks for a minimal number of values.
-/
import GrammarKit.Parser.Basic
import GrammarKit.Value.Shorter

namespace GrammarKit

/-- How the last attempt of a repetition ended. -/
inductive Stop where
  /-- It failed with a message. -/
  | failed (message : Value)
  /-- It succeeded, but left no shorter input. -/
  | stalled

/-- What repeating a parser comes to. -/
structure Repetition (α : Type) where
  /-- The values of the attempts that made progress, in order. -/
  values : List α
  /-- The input of the last attempt. -/
  last : Value
  /-- How the last attempt ended. -/
  stop : Stop

namespace Repetition

variable {α : Type}

/-- Puts one more value in front. -/
def push (v : α) (r : Repetition α) : Repetition α :=
  { r with values := v :: r.values }

end Repetition

namespace Stop

/-- The message of a repetition that made no progress. -/
def noProgress : Value := .text "Repetition made no progress".toList

/-- The message of a repetition that stopped too early. -/
def message : Stop → Value
  | failed m => m
  | stalled => noProgress

end Stop

namespace Parser

variable {α : Type}

/-- Runs a parser on the input, then on what it left, and so on, as long as that makes
progress. -/
def repeated (p : Parser α) (input : Value) : Effect (Repetition α) := do
  match ← p input with
  | .err m => return ⟨[], input, .failed m⟩
  | .ok v rest =>
    match h : rest.isShorter? input with
    | some true =>
      have := Value.length?_lt_of_isShorter? h
      Repetition.push v <$> repeated p rest
    | some false => return ⟨[], input, .stalled⟩
    | none => Effect.raise .unsupported
termination_by input.length?.getD 0

/-- One attempt of a repetition, and what follows it. -/
theorem repeated_eq (p : Parser α) (input : Value) :
    p.repeated input = (do
      match ← p input with
      | .err m => return ⟨[], input, .failed m⟩
      | .ok v rest =>
        match rest.length?, input.length? with
        | some m, some n =>
          if m < n then Repetition.push v <$> p.repeated rest
          else return ⟨[], input, .stalled⟩
        | _, _ => Effect.raise .unsupported) := by
  rw [repeated]
  congr 1
  funext r
  rcases r with ⟨v, rest⟩ | m
  · have shorter := Value.isShorter?_eq rest input
    dsimp only
    cases hr : rest.length? <;> cases hi : input.length? <;> rw [hr, hi] at shorter <;>
      split <;> rename_i h <;> rw [h] at shorter <;> simp_all [Nat.not_lt_of_le]
  · rfl

/-- Repeats a parser and gives the values, at least `least` of them. -/
def manyM (least : Int) (p : Parser α) : Parser (List α) :=
  fun input => do
    let r ← p.repeated input
    if (r.values.length : Int) < least then
      return .err r.stop.message
    else
      return .ok r.values r.last

end Parser

end GrammarKit
