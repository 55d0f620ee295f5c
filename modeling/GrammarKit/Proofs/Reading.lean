/-
# Parsers that read a text

On a text many parsers do something that can be said without values, events and faults: they read
characters off the front and give what they have read, or a message.  `Reader` is the type of such
descriptions, and `Parser.Reads` says that a parser does on every text what a reader says, with the
tracing flag on or off, and that it leaves the flag as it is.  A parser that reads never ends in a
fault.

The lemmas go through the combinators: if the parts of a parser read, then so does the parser.  A
format is then described by the readers of its parts, put together in the same way.
-/
import Mathlib.Data.List.TakeWhile
import GrammarKit.Proofs.Units

namespace GrammarKit

/-- What is read off the front of a text, with the text that is left; or a message. -/
abbrev Reader (α : Type) :=
  StateT Text (Except Text) α

namespace Reader

variable {α β : Type}

/-- Reads a character that passes a test.  The message of another one is `complaint`. -/
def take (test : Char → Bool) (complaint : Char → Text) : Reader Char
  | [] => .error "Empty input".toList
  | c :: s => if test c then .ok (c, s) else .error (complaint c)

/-- Reads the characters that pass a test, up to the first that does not. -/
def takeWhile (test : Char → Bool) : Reader Text :=
  fun s => .ok (s.takeWhile test, s.dropWhile test)

/-- Reads the same thing a number of times. -/
def count (m : Reader α) : Nat → Reader (List α)
  | 0 => pure []
  | n + 1 => do
    let a ← m
    let as ← count m n
    return a :: as

/-- What a parser comes to that reads; the values of the parser are made by `f`. -/
def result (f : β → α) : Except Text (β × Text) → Result α
  | .ok (b, rest) => .ok (f b) (.text rest)
  | .error m => .err (.text m)

/-- The run of two readers, one after the other. -/
lemma bind_run (m : Reader α) (n : α → Reader β) (s : Text) :
    (m >>= n) s = m s >>= fun read => n read.1 read.2 := rfl

lemma bind_eq_ok {m : Reader α} {n : α → Reader β} {s rest : Text} {b : β} :
    (m >>= n) s = .ok (b, rest) ↔ ∃ a s', m s = .ok (a, s') ∧ n a s' = .ok (b, rest) := by
  rw [bind_run]
  cases m s with
  | error m => exact ⟨nofun, nofun⟩
  | ok read =>
    constructor
    · exact fun h => ⟨read.1, read.2, rfl, h⟩
    · rintro ⟨_, _, ⟨⟩, h⟩
      exact h

lemma pure_eq_ok {a b : α} {s rest : Text} :
    (pure a : Reader α) s = .ok (b, rest) ↔ a = b ∧ s = rest := by
  constructor
  · rintro ⟨⟩
    exact ⟨rfl, rfl⟩
  · rintro ⟨rfl, rfl⟩
    rfl

/-! ### What the readers of characters accept -/

section

variable {test : Char → Bool} {complaint : Char → Text} {s ds rest : Text} {c : Char}

lemma take_eq_ok : take test complaint s = .ok (c, rest) ↔ s = c :: rest ∧ test c = true := by
  cases s with
  | nil => exact ⟨nofun, nofun⟩
  | cons d s =>
    rw [take]
    cases hd : test d with
    | true =>
      constructor
      · rintro ⟨⟩
        exact ⟨rfl, hd⟩
      · rintro ⟨⟨⟩, -⟩
        rfl
    | false =>
      constructor
      · exact nofun
      · rintro ⟨⟨⟩, hc⟩
        exact absurd hc (Bool.eq_false_iff.mp hd)

/-- A fixed number of characters. -/
lemma count_take_eq_ok {n : Nat} : (take test complaint).count n s = .ok (ds, rest) ↔
    s = ds ++ rest ∧ (∀ d ∈ ds, test d = true) ∧ ds.length = n := by
  induction n generalizing s ds rest with
  | zero =>
    rw [count, pure_eq_ok, List.length_eq_zero_iff]
    constructor
    · rintro ⟨rfl, rfl⟩
      exact ⟨rfl, nofun, rfl⟩
    · rintro ⟨rfl, -, rfl⟩
      exact ⟨rfl, rfl⟩
  | succ n ih =>
    simp only [count, bind_eq_ok, pure_eq_ok, take_eq_ok, ih]
    constructor
    · rintro ⟨d, _, ⟨rfl, hd⟩, ds, _, ⟨rfl, hds, rfl⟩, rfl, rfl⟩
      exact ⟨rfl, List.forall_mem_cons.mpr ⟨hd, hds⟩, rfl⟩
    · rintro ⟨rfl, hds, hlen⟩
      cases ds with
      | nil => cases hlen
      | cons d ds =>
        obtain ⟨hd, hds⟩ := List.forall_mem_cons.mp hds
        exact ⟨d, _, ⟨rfl, hd⟩, ds, rest, ⟨rfl, hds, Nat.succ.inj hlen⟩, rfl, rfl⟩

/-- As many characters as there are. -/
lemma takeWhile_eq_ok : takeWhile test s = .ok (ds, rest) ↔
    s = ds ++ rest ∧ (∀ d ∈ ds, test d = true) ∧ ∀ d ∈ rest.head?, test d = false := by
  constructor
  · rintro ⟨⟩
    refine ⟨List.takeWhile_append_dropWhile.symm, fun d hd => List.mem_takeWhile_imp hd, ?_⟩
    have stop := List.head?_dropWhile_not test s
    intro d hd
    rwa [Option.mem_def.mp hd] at stop
  · rintro ⟨rfl, hds, hrest⟩
    rw [takeWhile, List.takeWhile_append_of_pos hds, List.dropWhile_append_of_pos hds]
    cases rest with
    | nil => simp
    | cons d rest =>
      have hd : test d = false := hrest d rfl
      simp [hd]

/-- A fixed number of characters is as many as there are, if no further one follows. -/
lemma count_take_iff_takeWhile {n : Nat} (hrest : ∀ d ∈ rest.head?, test d = false) :
    (take test complaint).count n s = .ok (ds, rest) ↔
      takeWhile test s = .ok (ds, rest) ∧ ds.length = n := by
  rw [count_take_eq_ok, takeWhile_eq_ok]
  constructor
  · rintro ⟨hs, hds, hlen⟩
    exact ⟨⟨hs, hds, hrest⟩, hlen⟩
  · rintro ⟨⟨hs, hds, -⟩, hlen⟩
    exact ⟨hs, hds, hlen⟩

end

end Reader

/-! ### Effects with a result -/

/-- An effect gives a result if it comes to it with the tracing flag on or off, and leaves the
flag as it is. -/
def Effect.Gives {α : Type} (x : Effect α) (a : α) : Prop :=
  ∀ tracing, ∃ events, x tracing = ⟨.ok a, tracing, events⟩

namespace Effect

variable {α β : Type} {x : Effect α} {a : α} {b : β} {k : α → Effect β}

lemma gives_pure (a : α) : (pure a : Effect α).Gives a :=
  fun _ => ⟨[], rfl⟩

lemma IsSilent.gives (hx : x.IsSilent) (h : (x false).outcome = .ok a) : x.Gives a := by
  intro tracing
  rw [hx tracing, h]
  exact ⟨[], rfl⟩

lemma Gives.bind (hx : x.Gives a) (hk : (k a).Gives b) : (x >>= k).Gives b := by
  intro tracing
  obtain ⟨events, hx⟩ := hx tracing
  obtain ⟨events', hk⟩ := hk tracing
  rw [bind_run, hx, continueWith_ok, hk]
  exact ⟨events ++ events', rfl⟩

lemma Gives.map (hx : x.Gives a) (f : α → β) : (f <$> x).Gives (f a) := by
  rw [← bind_pure_comp]
  exact hx.bind (gives_pure (f a))

lemma Gives.outcome (hx : x.Gives a) (tracing : Bool) : (x tracing).outcome = .ok a := by
  obtain ⟨events, hx⟩ := hx tracing
  rw [hx]

end Effect

/-! ### Characters of a text -/

namespace Value

/-- A single character occurs in a text if it is one of its characters. -/
lemma occursIn_singleton (c : Char) (s : Text) : Text.occursIn [c] s = s.contains c := by
  induction s with
  | nil => rfl
  | cons d s ih =>
    rw [Text.occursIn, ih, List.contains_cons]
    simp only [List.isPrefixOf, Bool.and_true]

lemma isDigits_unit (c : Char) : isDigits (unit c) = .ok (asciiDigits.contains c) :=
  congrArg Except.ok (occursIn_singleton c asciiDigits)

lemma isLetters_unit (c : Char) : isLetters (unit c) = .ok (asciiLetters.contains c) :=
  congrArg Except.ok (occursIn_singleton c asciiLetters)

lemma equals_unit (c d : Char) : (unit d).equals (unit c) = (d == c) := by
  simp [unit, equals]

/-- A text is longer than what stands behind its first character. -/
lemma isShorter?_cons (c : Char) (s : Text) :
    (Value.text s).isShorter? (.text (c :: s)) = some true := by
  rw [isShorter?_eq]
  exact congrArg some (decide_eq_true (Nat.lt_succ_self s.length))

end Value

namespace Parser

variable {α β γ δ : Type} {p : Parser α} {q : Parser β} {m : Reader γ} {n : Reader δ}
  {f : γ → α} {g : δ → β}

/-- A parser reads if it does on every text what a reader says; `f` makes the values of the parser
from what is read. -/
def Reads (p : Parser α) (m : Reader γ) (f : γ → α) : Prop :=
  ∀ s, (p (.text s)).Gives (Reader.result f (m s))

/-- What a parser comes to that reads, with whatever value and rest. -/
lemma Reads.outcome_eq_ok (hp : p.Reads m f) {s : Text} {tracing : Bool} {v : α} {rest : Value} :
    (p (.text s) tracing).outcome = .ok (.ok v rest) ↔
      ∃ c s', m s = .ok (c, s') ∧ f c = v ∧ .text s' = rest := by
  rw [(hp s).outcome tracing]
  rcases m s with message | ⟨c, s'⟩
  · exact ⟨nofun, nofun⟩
  · constructor
    · rintro ⟨⟩
      exact ⟨c, s', rfl, rfl, rfl⟩
    · rintro ⟨_, _, ⟨⟩, rfl, rfl⟩
      rfl

/-- What is read may be put in another form. -/
lemma Reads.of_map {h : γ → δ} {f : δ → α} (hp : p.Reads m (f ∘ h)) : p.Reads (h <$> m) f := by
  intro s
  have hs := hp s
  show (p (.text s)).Gives (Reader.result f ((m >>= fun c => pure (h c)) s))
  rw [Reader.bind_run]
  cases hm : m s <;> rw [hm] at hs <;> exact hs

/-! ### Single characters -/

section

variable {test : Value → Except Fault Bool} {complaint : Value → Except Fault Value}
  {b : Char → Bool} {say : Char → Text}

lemma reads_unit (htest : ∀ c, test (.unit c) = .ok (b c))
    (hsay : ∀ c, complaint (.unit c) = .ok (.text (say c))) :
    (unit test complaint).Reads (.take b say) Value.unit := by
  intro s
  refine (isSilent_unit test complaint (.text s)).gives ?_
  cases s with
  | nil => rfl
  | cons c s =>
    rw [outcome_unit_of_front rfl rfl rfl, htest, hsay, Reader.take]
    cases b c <;> rfl

/-- What is said about a character that does not pass a test. -/
def unsatisfiedText (c : Char) : Text :=
  c :: " cannot satisfy the condition".toList

/-- What is said about a character that is not the expected one. -/
def unexpectedText (expected c : Char) : Text :=
  "Expecting ".toList ++ [expected] ++ ", but got ".toList ++ [c]

lemma reads_satisfy (htest : ∀ c, test (.unit c) = .ok (b c)) :
    (satisfy test).Reads (.take b unsatisfiedText) Value.unit :=
  reads_unit htest fun _ => rfl

lemma reads_char (c : Char) :
    (char (.unit c)).Reads (.take (· == c) (unexpectedText c)) Value.unit :=
  reads_unit (fun d => congrArg Except.ok (Value.equals_unit c d)) fun _ => rfl

end

/-! ### One after the other -/

/-- A parser goes on with the result of another one.  If it goes on reading after a success, and
hands on a failure, then it reads. -/
lemma Reads.bind {k : Result α → Effect (Result β)} {n : γ → Reader δ} (hp : p.Reads m f)
    (hk : ∀ s c s', m s = .ok (c, s') →
      (k (.ok (f c) (.text s'))).Gives (Reader.result g (n c s')))
    (herr : ∀ message, k (.err message) = pure (.err message)) :
    Reads (fun input => p input >>= k) (m >>= n) g := by
  intro s
  refine (hp s).bind ?_
  rw [Reader.bind_run]
  cases hm : m s with
  | error message =>
    rw [show Reader.result f (.error message) = .err (.text message) from rfl, herr]
    exact Effect.gives_pure _
  | ok read => exact hk s read.1 read.2 hm

lemma Reads.andThen (hp : p.Reads m f) (hq : q.Reads n g) :
    (p.andThen q).Reads (do return (← m, ← n)) (Prod.map f g) := by
  refine hp.bind (fun _ c s' _ => ?_) fun _ => rfl
  exact hq.bind (n := fun d => pure (c, d)) (g := Prod.map f g)
    (fun _ _ _ _ => Effect.gives_pure _) (fun _ => rfl) s'

/-- A function that is defined on what is read. -/
lemma Reads.fmap {k : α → Except Fault β} {h : γ → β} (hp : p.Reads m f)
    (hk : ∀ s c s', m s = .ok (c, s') → k (f c) = .ok (h c)) : (p.fmap k).Reads m h := by
  rw [← bind_pure m]
  refine hp.bind (fun s c s' hm => ?_) fun _ => rfl
  show (Effect.ofExcept (k (f c) >>= _)).Gives _
  rw [hk s c s' hm]
  exact Effect.gives_pure _

lemma Reads.map (hp : p.Reads m f) (k : α → β) : (p.map k).Reads m (k ∘ f) :=
  hp.fmap fun _ _ _ _ => rfl

lemma Reads.takeFirst (hp : p.Reads m f) (hq : q.Reads n g) :
    (p.takeFirst q).Reads (do let c ← m; let _ ← n; return c) f := by
  have first := ((hp.andThen hq).map Prod.fst).of_map (h := Prod.fst) (f := f)
  simp only [map_bind, map_pure] at first
  exact first

lemma Reads.takeSecond (hp : p.Reads m f) (hq : q.Reads n g) :
    (p.takeSecond q).Reads (do let _ ← m; n) g := by
  have second := ((hp.andThen hq).map Prod.snd).of_map (h := Prod.snd) (f := g)
  simp only [map_bind, map_pure, bind_pure] at second
  exact second

/-! ### Lists -/

section

variable {p : Parser α} {ps : List (Parser α)} {f : γ → α} {g : δ → List α}

lemma Reads.singleton (hp : p.Reads m f) : (sequence [p]).Reads m fun c => [f c] := by
  rw [← bind_pure m]
  exact hp.bind (fun _ _ _ _ => Effect.gives_pure _) fun _ => rfl

lemma Reads.cons (hp : p.Reads m f) (hps : (sequence ps).Reads n g) :
    (sequence (p :: ps)).Reads (do return (← m, ← n)) fun cd => f cd.1 :: g cd.2 := by
  refine hp.bind (fun _ c s' _ => ?_) fun _ => rfl
  have later := (hps s').map (Result.prepend (f c))
  rw [Reader.bind_run]
  cases hn : n s' <;> rw [hn] at later <;> exact later

/-- The same parser a number of times, and then others. -/
lemma Reads.replicate_append (hp : p.Reads m f) (hps : (sequence ps).Reads n g) (k : Nat) :
    (sequence (List.replicate k p ++ ps)).Reads (do return (← m.count k, ← n))
      fun cd => cd.1.map f ++ g cd.2 := by
  induction k with
  | zero =>
    have none := hps.of_map (h := fun d => (([] : List γ), d)) (f := fun cd => cd.1.map f ++ g cd.2)
    simp only [map_eq_pure_bind] at none
    simp only [Reader.count, pure_bind]
    exact none
  | succ k ih =>
    have more := (hp.cons ih).of_map (h := fun (cd : γ × List γ × δ) => (cd.1 :: cd.2.1, cd.2.2))
      (f := fun cd => cd.1.map f ++ g cd.2)
    simp only [map_eq_pure_bind, bind_assoc, pure_bind] at more
    simp only [Reader.count, bind_assoc, pure_bind]
    exact more

end

lemma Reads.manyM {b : Char → Bool} {say : Char → Text} {h : Char → α} {least : Int}
    (hp : p.Reads (.take b say) h) (hleast : least ≤ 0) :
    (manyM least p).Reads (.takeWhile b) (List.map h) := by
  have enough : ¬ 0 < least := Int.not_lt.mpr hleast
  intro s
  induction s generalizing least with
  | nil =>
    rw [manyM_eq]
    refine (hp []).bind ?_
    show Effect.Gives (pure (if 0 < least then _ else _)) _
    rw [if_neg enough]
    exact Effect.gives_pure _
  | cons c s ih =>
    rw [manyM_eq]
    refine (hp (c :: s)).bind ?_
    rw [Reader.take, Reader.takeWhile, List.takeWhile_cons, List.dropWhile_cons]
    cases hb : b c with
    | true =>
      -- the rounds that remain ask for one value less
      have later := (ih (show least - 1 ≤ 0 by omega) (by omega)).map (Result.prepend (h c))
      simp only [if_true, Reader.result, Value.isShorter?_cons]
      exact later
    | false =>
      show Effect.Gives (pure (if 0 < least then _ else _)) _
      rw [if_neg enough]
      exact Effect.gives_pure _

/-! ### Names -/

/-- The record of a name does not get in the way, if what is read can be written. -/
lemma Reads.named {p : Parser Value} {f : γ → Value} (hp : p.Reads m f) (name : Text)
    (hwritable : ∀ s c s', m s = .ok (c, s') → (f c).isWritable = true) :
    (p.named name).Reads m f := by
  intro s tracing
  obtain ⟨events, hrun⟩ := hp s tracing
  cases tracing with
  | false => exact ⟨events, hrun⟩
  | true =>
    have closes : (closing name (Reader.result f (m s))).isWritable = true := by
      cases hm : m s with
      | error message => rfl
      | ok read => exact Bool.and_eq_true_iff.mpr ⟨hwritable s read.1 read.2 hm, rfl⟩
    have opens : (Event.tried name (.text s)).isWritable = true := rfl
    rw [named_true, if_pos opens, hrun]
    dsimp only
    rw [if_pos closes]
    exact ⟨_, rfl⟩

end Parser

end GrammarKit
