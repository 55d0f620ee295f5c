/-
# How a run can end

A run ends with a success, with a failure or with a fault.  A failure is an ordinary result, and its
message comes from one node of the run: `Grammar.FailsWith` says what each kind of node can say, and
that a unit it complains about is one of the original input.  A fault has two sources only.  A
function that was handed to a node may raise it (`Grammar.Raises`), or a message has to show a
number with more digits than can be written (`Grammar.CannotWrite`).

So no combinator ends in a fault of its own making, whatever the input, as long as it is a sequence:
nothing is looked up that is not there, and no operation is applied to a value it is not defined
for.  The exception are the messages: they are texts, and there are expressions whose messages cannot
be written, although none of their functions raises anything.
-/
import GrammarKit.Proofs.Units

namespace GrammarKit

/-! ### What can be said about a run -/

/-- Whether a message tells that a unit was expected, and shows the unit of the given input that was
found in its place. -/
def Value.TellsMismatch (m expected input : Value) : Prop :=
  ∃ (u : Value) (s t : Text), u.IsUnitOf input ∧ expected.displayed = .ok s ∧
    u.displayed = .ok t ∧ m = .text ("Expecting ".toList ++ s ++ ", but got ".toList ++ t)

namespace Grammar

variable (g : Grammar)

/-- The messages that the node of a job can fail with on its own account.  If a message shows a
unit, it is one of the given input. -/
def FailsWith (input m : Value) : Job → Prop
  | ⟨⟨_, .char c, _⟩, _⟩ => m = .text "Empty input".toList ∨ m.TellsMismatch c input
  | ⟨⟨_, .literal us, _⟩, _⟩ =>
    m = .text "Empty input".toList ∨ ∃ c ∈ us, m.TellsMismatch c input
  | ⟨⟨_, .satisfy _, _⟩, _⟩ => m = .text "Empty input".toList ∨
    ∃ (u : Value) (s : Text), u.IsUnitOf input ∧ u.displayed = .ok s ∧
      m = .text (s ++ " cannot satisfy the condition".toList)
  | ⟨⟨_, .endOfInput, _⟩, _⟩ => ∃ (u : Value) (s : Text), u.IsUnitOf input ∧
    u.displayed = .ok s ∧ m = .text ("Expecting end of input, but got ".toList ++ s)
  | ⟨⟨_, .alt ps, _⟩, _⟩ => ps = [] ∧ m = .text "No alternatives".toList
  | ⟨⟨_, .manyM _ _, _⟩, _⟩ => m = .text "Repetition made no progress".toList
  | ⟨⟨_, .fail m', _⟩, _⟩ => m = m'
  | ⟨⟨d, .validate p m' test, i⟩, tracing⟩ => m = m' ∧
    ∃ v rest, (g.run ⟨d, p, i⟩ tracing).outcome = .ok (.ok v rest) ∧ test v = .ok false
  | _ => False

/-- The faults that a function of the node of a job raises: a test on the first unit of the input,
or one of the functions that are applied to the value of a part. -/
def Raises (fault : Fault) : Job → Prop
  | ⟨⟨_, .satisfy test, i⟩, _⟩ => ∃ u, i.item 0 = .ok u ∧ test u = .error fault
  | ⟨⟨d, .fmap f p, i⟩, tracing⟩ =>
    ∃ v rest, (g.run ⟨d, p, i⟩ tracing).outcome = .ok (.ok v rest) ∧ f v = .error fault
  | ⟨⟨d, .validate p _ test, i⟩, tracing⟩ =>
    ∃ v rest, (g.run ⟨d, p, i⟩ tracing).outcome = .ok (.ok v rest) ∧ test v = .error fault
  | ⟨⟨d, .bind p next, i⟩, tracing⟩ =>
    ∃ v rest, (g.run ⟨d, p, i⟩ tracing).outcome = .ok (.ok v rest) ∧ next v = .error fault
  | _ => False

/-- The faults of the node of a job that has to show a number with too many digits: in a message
about a unit of the given input, or in the trace. -/
def CannotWrite (input : Value) (fault : Fault) : Job → Prop
  | ⟨⟨_, .char c, _⟩, _⟩ => fault = .unwritable ∧
    ∃ u : Value, u.IsUnitOf input ∧ (c.isWritable = false ∨ u.isWritable = false)
  | ⟨⟨_, .literal _, _⟩, _⟩ => fault = .unwritable ∧
    ∃ u : Value, u.IsUnitOf input ∧ u.isWritable = false
  | ⟨⟨_, .satisfy test, i⟩, _⟩ => fault = .unwritable ∧
    ∃ u : Value, u.IsUnitOf input ∧ u.isWritable = false ∧ i.item 0 = .ok u ∧ test u = .ok false
  | ⟨⟨_, .endOfInput, _⟩, _⟩ => fault = .unwritable ∧
    ∃ u : Value, u.IsUnitOf input ∧ u.isWritable = false
  | ⟨⟨d, .named p name, i⟩, tracing⟩ =>
    fault = .untraceable ∧ ¬ g.Traceable ⟨⟨d, .named p name, i⟩, tracing⟩
  | _ => False

/-- Whether the outcome of a job is accounted for by a job that it contains and that has the same
outcome: a failure by a node that can fail with the message, and a fault by a node whose function
raises it or that cannot write what it has to say. -/
def Accounts (input : Value) (job : Job) : Except Fault (Result Value) → Prop
  | .ok (.ok _ _) => True
  | .ok (.err m) => ∃ job', g.Contains job job' ∧ (g.runJob job').outcome = .ok (.err m) ∧
    g.FailsWith input m job'
  | .error fault => ∃ job', g.Contains job job' ∧ (g.runJob job').outcome = .error fault ∧
    (g.Raises fault job' ∨ g.CannotWrite input fault job')

end Grammar

/-! ### Nodes and runs -/

namespace Grammar

variable {g : Grammar} {input : Value} {d : Nat} {i : Value} {tracing : Bool} {job job' : Job}

/-- What accounts for the outcome of a job accounts for it also as seen from a job that calls it. -/
lemma Accounts.of_calls {o : Except Fault (Result Value)} (hcall : g.Calls job job')
    (h : g.Accounts input job' o) : g.Accounts input job o := by
  match o, h with
  | .ok (.ok _ _), _ => trivial
  | .ok (.err m), ⟨job'', hin, hm⟩ => exact ⟨job'', .head hcall hin, hm⟩
  | .error fault, ⟨job'', hin, hf⟩ => exact ⟨job'', .head hcall hin, hf⟩

/-- Whether an outcome is accounted for, should it be that of the job. -/
def Fits (g : Grammar) (input : Value) (job : Job) (o : Except Fault (Result Value)) : Prop :=
  (g.runJob job).outcome = o → g.Accounts input job o

lemma fits_ok (v rest : Value) : g.Fits input job (.ok (.ok v rest)) :=
  fun _ => trivial

/-- A node that can fail with a message accounts for the failure. -/
lemma fits_err {m : Value} (h : g.FailsWith input m job) : g.Fits input job (.ok (.err m)) :=
  fun hout => ⟨job, .refl, hout, h⟩

lemma fits_raised {fault : Fault} (h : g.Raises fault job) : g.Fits input job (.error fault) :=
  fun hout => ⟨job, .refl, hout, .inl h⟩

/-- A node that fails with a message, or cannot write it, accounts for both. -/
lemma fits_message {message : Except Fault Value}
    (hm : ∀ m, message = .ok m → g.FailsWith input m job)
    (hf : ∀ fault, message = .error fault → g.CannotWrite input fault job) :
    g.Fits input job (message.map .err) := by
  intro hout
  cases message with
  | ok m => exact fits_err (hm m rfl) hout
  | error fault => exact ⟨job, .refl, hout, .inr (hf fault rfl)⟩

/-- Only a named parser writes to the trace. -/
lemma fits_untraceable (h : ¬ g.Traceable job) : g.Fits input job (.error .untraceable) := by
  refine fun hout => ⟨job, .refl, hout, .inr ?_⟩
  obtain ⟨⟨d, e, i⟩, tracing⟩ := job
  cases e with
  | named p name => exact ⟨rfl, h⟩
  | _ => exact (h trivial).elim

/-- A message about an expected unit shows the two. -/
lemma tellsMismatch_of_unexpected {c u m : Value} (hu : u.IsUnitOf input)
    (hm : Parser.unexpected c u = .ok m) : m.TellsMismatch c input := by
  obtain ⟨s, t, hs, ht, rfl⟩ := Parser.unexpected_eq_ok.mp hm
  exact ⟨u, s, t, hu, hs, ht, rfl⟩

lemma fits_char (c : Value) (hseq : i.IsSequence) (hi : i.IsRestOf input) :
    g.Fits input ⟨⟨d, .char c, i⟩, tracing⟩ (Parser.char c i false).outcome := by
  rcases Parser.outcome_char c hseq false with ⟨u, rest, -, -, hrun⟩ | ⟨m, hm, hrun⟩
  · rw [hrun]
    exact fits_ok u rest
  · rw [hrun]
    obtain rfl | ⟨u, hu, rfl⟩ := hm
    · exact fits_err (.inl rfl)
    · have unit : u.IsUnitOf input := hu.of_isRestOf hi
      refine fits_message (fun m hm => .inr (tellsMismatch_of_unexpected unit hm)) ?_
      intro fault hf
      obtain ⟨hfault, hw⟩ := Parser.unexpected_eq_error hf
      exact ⟨hfault, u, unit, hw⟩

lemma fits_literal (s : Text) (hseq : i.IsSequence) (hi : i.IsRestOf input) :
    g.Fits input ⟨⟨d, .literal (s.map Value.unit), i⟩, tracing⟩
      (Parser.literal (s.map Value.unit) i false).outcome := by
  rcases Parser.outcome_literal s hseq false with ⟨rest, hrun⟩ | ⟨c, hc, m, hm, hrun⟩
  · rw [hrun]
    exact fits_ok _ rest
  · rw [hrun]
    obtain rfl | ⟨u, hu, rfl⟩ := hm
    · exact fits_err (.inl rfl)
    · have unit : u.IsUnitOf input := hu.of_isRestOf hi
      refine fits_message (fun m hm => .inr ⟨c, hc, tellsMismatch_of_unexpected unit hm⟩) ?_
      intro fault hf
      obtain ⟨hfault, hw⟩ := Parser.unexpected_eq_error hf
      -- a character can always be written
      obtain ⟨ch, -, rfl⟩ := List.mem_map.mp hc
      obtain hc | hu' := hw
      · cases hc
      · exact ⟨hfault, u, unit, hu'⟩

lemma fits_satisfy (test : Value → Except Fault Bool) (hseq : i.IsSequence)
    (hi : i.IsRestOf input) :
    g.Fits input ⟨⟨d, .satisfy test, i⟩, tracing⟩ (Parser.satisfy test i false).outcome := by
  rcases Parser.outcome_unit hseq with hrun | ⟨u, rest, hitem, hu, -, hrun⟩
  · rw [Parser.satisfy, hrun]
    exact fits_err (.inl rfl)
  · rw [Parser.satisfy, hrun]
    have unit : u.IsUnitOf input := hu.of_isRestOf hi
    cases htest : test u with
    | error fault => exact fits_raised ⟨u, hitem, htest⟩
    | ok b =>
      cases b with
      | true => exact fits_ok u rest
      | false =>
        refine fits_message (fun m hm => .inr ?_) ?_
        · obtain ⟨s, hs, rfl⟩ := Parser.about_eq_ok.mp hm
          exact ⟨u, s, unit, hs, rfl⟩
        · intro fault hf
          obtain ⟨hfault, hw⟩ := Parser.about_eq_error hf
          exact ⟨hfault, u, unit, hw, hitem, htest⟩

lemma fits_endOfInput (hseq : i.IsSequence) (hi : i.IsRestOf input) :
    g.Fits input ⟨⟨d, .endOfInput, i⟩, tracing⟩ (Parser.endOfInput i false).outcome := by
  rcases hseq.front with hempty | ⟨hne, u, rest, hitem, -, hu⟩
  · rw [Parser.endOfInput, hempty]
    exact fits_ok .null i
  · have run : (Parser.endOfInput i false).outcome = (Parser.unfinished u).map .err := by
      rw [Parser.endOfInput, hne, hitem]
      show (Effect.continueWith (Effect.ofExcept (Parser.unfinished u) false) _).outcome = _
      cases Parser.unfinished u <;> rfl
    have unit : u.IsUnitOf input := hu.of_isRestOf hi
    rw [run]
    refine fits_message (fun m hm => ?_) ?_
    · obtain ⟨s, hs, rfl⟩ := Parser.about_eq_ok.mp hm
      exact ⟨u, s, unit, hs, rfl⟩
    · intro fault hf
      obtain ⟨hfault, hw⟩ := Parser.about_eq_error hf
      exact ⟨hfault, u, unit, hw⟩

/-- What a node is told by its answers: each comes from a run that ended with it, leaves a part of
its input, and is accounted for. -/
def Answers (g : Grammar) (input : Value) (job job' : Job) (r : Result Value) : Prop :=
  (g.runJob job').outcome = .ok r ∧ r.LeavesRestOf job'.task.input ∧ g.Accounts input job (.ok r)

lemma Answers.fits {r : Result Value} {job'' : Job} (h : g.Answers input job job'' r) :
    g.Fits input job (.ok r) :=
  fun _ => h.2.2

/-- Two parts, one after the other, fail as one of them does. -/
lemma holds_both_fits (first : Task) (second : Value → Task)
    (combine : Value → Value → Value) :
    (Plan.both first second combine).Holds g (fun _ => True) (g.Answers input job)
      (g.Fits input job) tracing := by
  refine Plan.holds_both trivial (fun _ _ _ => trivial) ?_ ?_ ?_
  · intro v rest _ t w rest' _
    exact fits_ok _ rest'
  · intro m h
    exact h.fits
  · intro rest t m h
    exact h.fits

open Plan in
/-- A node with plain leaves that is run on a part of a sequence has an outcome that is accounted
for, if its answers are. -/
lemma holds_fits {task : Task} (he : task.expr.Leaves Expr.IsPlain)
    (hseq : task.input.IsSequence) (hi : task.input.IsRestOf input) :
    (g.plan task).Holds g (fun _ => True) (g.Answers input ⟨task, tracing⟩)
      (g.Fits input ⟨task, tracing⟩) tracing := by
  obtain ⟨d, e, i⟩ := task
  cases e with
  | char c => exact fits_char c hseq hi
  | literal us =>
    obtain ⟨s, rfl⟩ := he
    exact fits_literal s hseq hi
  | satisfy test => exact fits_satisfy test hseq hi
  | endOfInput => exact fits_endOfInput hseq hi
  | succeed v => exact fits_ok v i
  | setTracing on => exact fits_ok .null i
  | fail m => exact fits_err rfl
  | constant r => exact he.elim
  | misfit v => exact he.elim
  | ref name => exact he.elim
  | andThen p q => exact holds_both_fits _ _ _
  | takeFirst p q => exact holds_both_fits _ _ _
  | takeSecond p q => exact holds_both_fits _ _ _
  | sequence ps =>
    cases ps with
    | nil => exact fits_ok _ i
    | cons p ps => exact holds_both_fits _ _ _
  | times n p =>
    cases n with
    | zero => exact fits_ok _ i
    | succ n => exact holds_both_fits _ _ _
  | alt ps =>
    match ps with
    | [] => exact fits_err ⟨rfl, rfl⟩
    | [p] => exact holds_pass trivial fun r hr => hr.fits
    | p :: q :: ps =>
      refine ⟨trivial, fun r hr => ?_⟩
      cases r with
      | ok v rest => exact fits_ok v rest
      | err m => exact holds_pass trivial fun r hr => hr.fits
  | manyM least p =>
    refine ⟨trivial, fun r hr => ?_⟩
    cases r with
    | err m => exact holds_settle hr.fits (fits_ok _ i)
    | ok v rest =>
      dsimp only
      split
      · exact holds_follow trivial (fun w rest' _ => fits_ok _ rest') fun m h => h.fits
      · exact holds_settle (fits_err rfl) (fits_ok _ i)
      · -- both inputs are sequences, so that their lengths can be compared
        rename_i hshorter
        have hrest : rest.IsSequence := hseq.of_isRestOf hr.2.1
        exact absurd hshorter (hrest.isShorter?_ne_none hseq)
  | optional p default =>
    refine ⟨trivial, fun r hr => ?_⟩
    cases r with
    | ok v rest => exact fits_ok v rest
    | err m => exact fits_ok default i
  | fmap f p =>
    refine ⟨trivial, fun r hr => ?_⟩
    cases r with
    | err m => exact hr.fits
    | ok v rest =>
      show g.Fits input _ (f v >>= _)
      cases hf : f v with
      | error fault => exact fits_raised ⟨v, rest, hr.1, hf⟩
      | ok w => exact fits_ok w rest
  | validate p m test =>
    refine ⟨trivial, fun r hr => ?_⟩
    cases r with
    | err m' => exact hr.fits
    | ok v rest =>
      show g.Fits input _ (test v >>= _)
      cases htest : test v with
      | error fault => exact fits_raised ⟨v, rest, hr.1, htest⟩
      | ok b =>
        cases b with
        | true => exact fits_ok v rest
        | false => exact fits_err ⟨rfl, v, rest, hr.1, htest⟩
  | bind p next =>
    refine holds_follow trivial (fun v rest hr => ?_) fun m hr => hr.fits
    cases hnext : next v with
    | ok e => exact holds_pass trivial fun r hr => hr.fits
    | error fault => exact fits_raised ⟨v, rest, hr.1, hnext⟩
  | named p name => exact holds_pass trivial fun r hr => hr.fits
  | spy p label => exact holds_pass trivial fun r hr => hr.fits

/-- A grammar plays no part where nothing refers to it. -/
lemma leaves_isPlain (g : Grammar) : g.Leaves Expr.IsPlain :=
  fun _ _ href => href.elim

/-- On a part of a sequence, every job with plain leaves has an outcome that is accounted for. -/
lemma accounts_runJob (g : Grammar) (task : Task) : task.expr.Leaves Expr.IsPlain →
    task.input.IsSequence → task.input.IsRestOf input →
    ∀ tracing, g.Accounts input ⟨task, tracing⟩ (g.runJob ⟨task, tracing⟩).outcome := by
  induction task using g.task_induction with
  | step task ih =>
    intro he hseq hi tracing
    -- a called job is run on a part of this input, so that its units are units of the whole
    have called : ∀ job, g.Calls ⟨task, tracing⟩ job →
        g.Accounts input ⟨task, tracing⟩ (g.runJob job).outcome := by
      intro job hcall
      have hrest : job.task.input.IsRestOf task.input :=
        isRestOf_of_calls (fun _ => id) g.leaves_isPlain he hcall
      have hleaves : job.task.expr.Leaves Expr.IsPlain :=
        leaves_of_asks g.leaves_isPlain hcall.asks he
      have accounts : g.Accounts input job (g.runJob job).outcome :=
        ih job.task hcall.asks hleaves (hseq.of_isRestOf hrest) (hrest.trans hi) job.tracing
      exact accounts.of_calls hcall
    have fits : g.Fits input ⟨task, tracing⟩ (g.runJob ⟨task, tracing⟩).outcome := by
      refine outcome_of_holds (holds_fits he hseq hi) ?_ ?_ fits_untraceable
      · intro job hcall _ r hr
        have hleaves : job.task.expr.Leaves Expr.IsPlain :=
          leaves_of_asks g.leaves_isPlain hcall.asks he
        have hrest : r.LeavesRestOf job.task.input :=
          leavesRestOf_runJob (fun _ => id) g.leaves_isPlain job.task hleaves job.tracing r hr
        exact ⟨hr, hrest, hr ▸ called job hcall⟩
      · intro job hcall _ fault hfault _
        exact hfault ▸ called job hcall
    exact fits rfl

/-- **The outcomes of a run.**  An expression without references, fixed results and values in the
place of parsers ends on every sequence with a success, with a failure that a node of the run has
come to on its own account, or with a fault of a node of the run whose function raised it or which
could not write what it had to say. -/
theorem accounts_of_isPlain (g : Grammar) (e : Expr) (he : e.Leaves Expr.IsPlain) (input : Value)
    (hseq : input.IsSequence) (tracing : Bool) :
    g.Accounts input ⟨⟨maxDepth, e, input⟩, tracing⟩ (g.parser e input tracing).outcome :=
  accounts_runJob g ⟨maxDepth, e, input⟩ he hseq (.refl input) tracing

/-- The same letter twice. -/
def doubledLetter : Expr :=
  .bind (.satisfy Value.isLetters) fun v => .ok (.char v)

theorem accounts_of_isPlain_doubledLetter :
    (({} : Grammar).parser doubledLetter (.text ['a', 'b']) false).outcome =
      .ok (.err (.text "Expecting a, but got b".toList)) ∧
    ({} : Grammar).Accounts (.text ['a', 'b']) ⟨⟨maxDepth, doubledLetter, .text ['a', 'b']⟩, false⟩
      (({} : Grammar).parser doubledLetter (.text ['a', 'b']) false).outcome :=
  ⟨rfl, accounts_of_isPlain {} doubledLetter ⟨trivial, fun _ => trivial⟩ (.text ['a', 'b']) trivial
    false⟩

/-! ### A message that cannot be written -/

/-- Computes the product of two numbers and takes it as a unit. -/
def expectProduct (m n : Int) : Expr :=
  .bind (.fmap (fun _ => (Value.pair (.int m) (.list [.pair (.text ['*']) (.int n)])).chain)
    (.succeed (.int 0))) fun v => .ok (.char v)

/-- No function in a run of `expectProduct` raises anything. -/
lemma not_raises_expectProduct {m n : Int} {fault : Fault}
    (hin : g.Contains ⟨⟨d, expectProduct m n, i⟩, tracing⟩ job) : ¬ g.Raises fault job := by
  obtain rfl | ⟨called, ⟨-, hcall⟩, hin⟩ := Relation.ReflTransGen.cases_head hin
  · rintro ⟨v, rest, -, h⟩
    cases h
  · cases hcall with
    -- the computation of the product, and the constant it starts from
    | first =>
      obtain rfl | ⟨called, ⟨-, hcall⟩, hin⟩ := Relation.ReflTransGen.cases_head hin
      · rintro ⟨v, rest, -, h⟩
        cases h
      · cases hcall with
        | first =>
          cases eq_of_contains (fun _ => id) hin
          exact id
        | later hr hc => cases hc
    -- the parser that is made of the product
    | @later _ _ _ r _ hr hc =>
      cases r with
      | err m => cases hc
      | ok v rest =>
        cases hc with
        | first =>
          cases eq_of_contains (fun _ => id) hin
          exact id
        | later hr hc => cases hc

/-- No character is a number, and if the number cannot be written, neither can the message. -/
lemma outcome_char_int {n : Int} (h : Text.hasNumeral n = false) (u : Char) (tracing : Bool) :
    (Parser.char (.int n) (.text [u]) tracing).outcome = .error .unwritable := by
  have unwritable : (Value.int n).displayed = .error .unwritable := by
    simp only [Value.displayed, Value.ifWritable, Value.isWritable, h, Bool.false_eq_true, if_false]
  have message : Parser.unexpected (.int n) (Value.unit u) = .error .unwritable := by
    rw [Parser.unexpected, unwritable]
    rfl
  rw [Parser.outcome_char_of_ne rfl, message]
  rfl

lemma outcome_expectProduct (m n : Int) (input : Value) (tracing : Bool) :
    (g.parser (expectProduct m n) input tracing).outcome =
      (Parser.char (.int (m * n)) input tracing).outcome := rfl

/-- A number with about half as many digits as can be written. -/
def halfLong : Int :=
  Int.ofNat (Nat.pow 10 2150)

theorem expectProduct_cannotWrite :
    (expectProduct halfLong halfLong).Leaves Expr.IsPlain ∧ (Value.text ['a']).IsSequence ∧
    (({} : Grammar).parser (expectProduct halfLong halfLong) (.text ['a']) false).outcome =
      .error .unwritable ∧
    ∀ job, ({} : Grammar).Contains
      ⟨⟨maxDepth, expectProduct halfLong halfLong, .text ['a']⟩, false⟩ job →
      ∀ fault, ¬ ({} : Grammar).Raises fault job := by
  have long : Text.hasNumeral (halfLong * halfLong) = false := by decide +kernel
  exact ⟨⟨trivial, fun _ => trivial⟩, trivial,
    (outcome_expectProduct _ _ _ _).trans (outcome_char_int long 'a' false),
    fun job hin fault => not_raises_expectProduct hin⟩

end Grammar

end GrammarKit
