import DataSync.Source.Allocator
import Mathlib.Control.Monad.Basic

/-!
# Fresh identifiers

What an allocator draws: the identifiers that it gives at once, and those that it shows to a test.  The
numbers drawn only rise, and always lie above the numbers of all identifiers that the allocator was told
of, so that none of these is drawn, and none twice.  Once no number is left this stays so.
-/

namespace DataSync

namespace IdAllocator

variable {σ : Type} {a b c : IdAllocator} {luid : Luid} {luids others : List Luid}

/-! ## Numbers drawn -/

/-- Identifiers that were drawn one after the other while the allocator came from one state to
another. -/
def Draws (a : IdAllocator) (luids : List Luid) (b : IdAllocator) : Prop :=
  a.next ≤ b.next ∧ ∃ numbers : List Nat, luids = numbers.map toString ∧
    numbers.Pairwise (· < ·) ∧ ∀ n ∈ numbers, a.next ≤ n ∧ n < b.next

namespace Draws

theorem none (rises : a.next ≤ b.next) : Draws a [] b :=
  ⟨rises, [], rfl, .nil, nofun⟩

theorem one (more : a.next < numericLimit) : Draws a [toString a.next] ⟨a.next + 1, more⟩ :=
  ⟨Nat.le_succ _, [a.next], rfl, List.pairwise_singleton _ _, by simp⟩

theorem append (first : Draws a luids b) (second : Draws b others c) :
    Draws a (luids ++ others) c := by
  obtain ⟨rises, numbers, rfl, ascending, within⟩ := first
  obtain ⟨rises', numbers', rfl, ascending', within'⟩ := second
  refine ⟨Nat.le_trans rises rises', numbers ++ numbers', by simp, ?_, ?_⟩
  · rw [List.pairwise_append]
    refine ⟨ascending, ascending', fun n member n' member' => ?_⟩
    exact Nat.lt_of_lt_of_le (within n member).2 (within' n' member').1
  · intro n member
    obtain old | new := List.mem_append.1 member
    · have := within n old
      omega
    · have := within' n new
      omega

end Draws

/-! ## Identifiers that are out of reach -/

/-- The identifier is not the text of a number that can still be drawn. -/
def Spent (luid : Luid) (a : IdAllocator) : Prop :=
  ∀ n, luid = toString n → n < numericLimit → n < a.next

theorem Spent.mono (spent : Spent luid a) (rises : a.next ≤ b.next) : Spent luid b :=
  fun n text small => Nat.lt_of_lt_of_le (spent n text small) rises

theorem Spent.not_mem (spent : Spent luid a) (draws : Draws a luids b) : luid ∉ luids := by
  obtain ⟨-, numbers, rfl, -, within⟩ := draws
  intro member
  obtain ⟨n, drawn, rfl⟩ := List.mem_map.1 member
  have ⟨above, below⟩ := within n drawn
  have spent := spent n rfl (Nat.lt_of_lt_of_le below b.bounded)
  omega

theorem next_startingAt (first : Nat) : (startingAt first).next = min first numericLimit := rfl

theorem next_le_observe (luid : Luid) (a : IdAllocator) : a.next ≤ (a.observe luid).next := by
  unfold observe
  cases luid.number? with
  | none => exact Nat.le_refl _
  | some value =>
    dsimp only
    split
    · exact Nat.le_refl _
    · have := a.bounded
      rw [next_startingAt]
      omega

theorem spent_observe (luid : Luid) (a : IdAllocator) : Spent luid (a.observe luid) := by
  rintro n rfl small
  -- The text of a number is read as that number, whatever other texts are read so, too.
  rw [observe, Luid.number?_toString small]
  dsimp only
  split
  · assumption
  · rw [next_startingAt]
    omega

theorem spent_foldl_observe (luids : List Luid) (a : IdAllocator) :
    a.next ≤ (luids.foldl (fun a luid => a.observe luid) a).next ∧
      ∀ luid ∈ luids, Spent luid (luids.foldl (fun a luid => a.observe luid) a) := by
  induction luids generalizing a with
  | nil => exact ⟨Nat.le_refl _, nofun⟩
  | cons first rest inductionHypothesis =>
    obtain ⟨rises, spent⟩ := inductionHypothesis (a.observe first)
    refine ⟨Nat.le_trans (next_le_observe first a) rises, fun luid member => ?_⟩
    obtain rfl | later := List.mem_cons.1 member
    · exact (spent_observe luid a).mono rises
    · exact spent luid later

/-! ## Searches -/

/-- An identifier that a test was shown, and what the test said. -/
abbrev Inquiry := Luid × Except SourceError Bool

/-- A test with a record of what it was asked. -/
def recorded (taken : Luid → Action σ SourceError Bool) (luid : Luid) :
    Action (σ × List Inquiry) SourceError Bool :=
  .of fun (s, asked) => match (taken luid).on s with
    | (told, s) => (told, s, asked ++ [(luid, told)])

/-- A search for an identifier that is not taken: what the test was asked, the answer, and the allocator
after it. -/
inductive Search : IdAllocator → List Inquiry → Except SourceError Luid → IdAllocator → Prop where
  | exhausted {a : IdAllocator} (full : a.next = numericLimit) :
      Search a [] (.error .idSpaceExhausted) a
  | failed {a : IdAllocator} (more : a.next < numericLimit) (e : SourceError) :
      Search a [(toString a.next, .error e)] (.error e) ⟨a.next + 1, more⟩
  | free {a : IdAllocator} (more : a.next < numericLimit) :
      Search a [(toString a.next, .ok false)] (.ok (toString a.next)) ⟨a.next + 1, more⟩
  | taken {a b : IdAllocator} {asked : List Inquiry} {answer : Except SourceError Luid}
      (more : a.next < numericLimit) (later : Search ⟨a.next + 1, more⟩ asked answer b) :
      Search a ((toString a.next, .ok true) :: asked) answer b

theorem allocateWith_recorded (taken : Luid → Action σ SourceError Bool) (a : IdAllocator) (s : σ)
    (before : List Inquiry) : ∃ asked answer b after, Search a asked answer b ∧
      a.allocateWith taken s = (answer, b, after) ∧
      a.allocateWith (recorded taken) (s, before) = (answer, b, after, before ++ asked) := by
  -- Each round takes one number off those that are left.
  induction rounds : numericLimit - a.next generalizing a s before with
  | zero =>
    have full : ¬ a.next < numericLimit := by omega
    refine ⟨[], _, a, s, .exhausted (Nat.le_antisymm a.bounded (Nat.not_lt.1 full)), ?_, ?_⟩
    · rw [allocateWith, dif_neg full]
    · rw [allocateWith, dif_neg full, List.append_nil]
  | succ fewer inductionHypothesis =>
    have more : a.next < numericLimit := by omega
    rw [allocateWith, allocateWith, dif_pos more, dif_pos more]
    simp only [recorded, Action.on_of]
    rcases (taken (toString a.next)).on s with ⟨e | _ | _, s⟩
    · exact ⟨_, _, _, _, .failed more e, rfl, rfl⟩
    · exact ⟨_, _, _, _, .free more, rfl, rfl⟩
    · obtain ⟨asked, answer, b, after, search, plain, noted⟩ :=
        inductionHypothesis ⟨a.next + 1, more⟩ s (before ++ [(toString a.next, .ok true)]) (by
          change numericLimit - (a.next + 1) = fewer
          omega)
      refine ⟨_, _, _, _, .taken more search, plain, ?_⟩
      simpa [recorded] using noted

namespace Search

variable {asked : List Inquiry} {answer : Except SourceError Luid}

theorem draws (search : Search a asked answer b) : Draws a (asked.map (·.1)) b := by
  induction search with
  | exhausted full => exact .none (Nat.le_refl _)
  | failed more e => exact .one more
  | free more => exact .one more
  | taken more later inductionHypothesis => exact (Draws.one more).append inductionHypothesis

theorem mem_of_ok (search : Search a asked (.ok luid) b) : luid ∈ asked.map (·.1) := by
  generalize result : Except.ok luid = answer at search
  induction search with
  | exhausted full => cases result
  | failed more e => cases result
  | free more => cases result; simp
  | taken more later inductionHypothesis => exact List.mem_cons_of_mem _ (inductionHypothesis result)

/-- A search fails because its test does or because no number is left. -/
theorem of_error {e : SourceError} (search : Search a asked (.error e) b) :
    (∃ inquiry ∈ asked, inquiry.2 = .error e) ∨ e = .idSpaceExhausted ∧ b.next = numericLimit := by
  generalize result : Except.error e = answer at search
  induction search with
  | exhausted full => exact .inr ⟨Except.error.inj result, full⟩
  | failed more e =>
    cases result
    exact .inl ⟨_, List.mem_singleton_self _, rfl⟩
  | free more => cases result
  | taken more later inductionHypothesis =>
    refine (inductionHypothesis result).imp_left ?_
    rintro ⟨inquiry, member, told⟩
    exact ⟨inquiry, List.mem_cons_of_mem _ member, told⟩

theorem of_full (search : Search a asked answer b) (full : a.next = numericLimit) :
    asked = [] ∧ answer = .error .idSpaceExhausted ∧ b = a := by
  cases search with
  | exhausted _ => exact ⟨rfl, rfl, rfl⟩
  | failed more e | free more | taken more later => exact absurd full (Nat.ne_of_lt more)

end Search

/-! ## Calls -/

/-- What an allocator is called for.  The tests share a state of their own, and any of them may fail. -/
inductive Call (σ : Type) where
  | allocate
  | allocateWith (taken : Luid → Action σ SourceError Bool)
  | observe (luid : Luid)

/-- A call that was made, the answer if it has one, and what its test was asked. -/
structure Turn (σ : Type) where
  call : Call σ
  answer : Option (Except SourceError Luid) := none
  asked : List Inquiry := []

namespace Turn

/-- The identifiers that were given at once or shown to the test. -/
def drawn (turn : Turn σ) : List Luid :=
  match turn.call, turn.answer with
  | .allocate, some (.ok luid) => [luid]
  | .allocateWith _, _ => turn.asked.map (·.1)
  | _, _ => []

/-- The identifiers that the allocator was told of. -/
def observed (turn : Turn σ) : List Luid :=
  match turn.call with
  | .observe luid => [luid]
  | _ => []

/-- The allocator had no number left.  A test that itself fails with the error that says so is not
meant. -/
def Exhausted (turn : Turn σ) : Prop :=
  turn.answer = some (.error .idSpaceExhausted) ∧
    ∀ inquiry ∈ turn.asked, inquiry.2 ≠ .error .idSpaceExhausted

instance (turn : Turn σ) : Decidable turn.Exhausted :=
  inferInstanceAs (Decidable (_ ∧ _))

/-- The call was refused for want of numbers, and nothing was drawn; being told of an identifier is never
refused. -/
def Refused (turn : Turn σ) : Prop :=
  turn.drawn = [] ∧
    ((∃ luid, turn.call = .observe luid) ∨ turn.answer = some (.error .idSpaceExhausted))

end Turn

namespace Call

/-- Make a call. -/
def perform (call : Call σ) (a : IdAllocator) (s : σ) :
    Option (Except SourceError Luid) × IdAllocator × σ :=
  match call with
  | allocate => match IdAllocator.allocate.on a with
    | (answer, a) => (some answer, a, s)
  | allocateWith taken => match a.allocateWith taken s with
    | (answer, a, s) => (some answer, a, s)
  | observe luid => (none, a.observe luid, s)

/-- Make a call and keep a record of it. -/
def take (call : Call σ) (a : IdAllocator) (s : σ) : Turn σ × IdAllocator × σ :=
  match call with
  | allocateWith taken => match a.allocateWith (recorded taken) (s, []) with
    | (answer, a, s, asked) => ({ call, answer := some answer, asked }, a, s)
  | _ => match call.perform a s with
    | (answer, a, s) => ({ call, answer }, a, s)

/-- Make calls one after the other. -/
def performAll : List (Call σ) → IdAllocator → σ →
    List (Option (Except SourceError Luid)) × IdAllocator × σ
  | [], a, s => ([], a, s)
  | call :: calls, a, s => match call.perform a s with
    | (answer, a, s) => match performAll calls a s with
      | (answers, ended) => (answer :: answers, ended)

/-- Make calls one after the other and keep a record of them. -/
def takeAll : List (Call σ) → IdAllocator → σ → List (Turn σ) × IdAllocator × σ
  | [], a, s => ([], a, s)
  | call :: calls, a, s => match call.take a s with
    | (turn, a, s) => match takeAll calls a s with
      | (turns, ended) => (turn :: turns, ended)

/-- What one call comes to. -/
structure Step (a : IdAllocator) (turn : Turn σ) (b : IdAllocator) : Prop where
  draws : Draws a turn.drawn b
  spent : ∀ luid ∈ turn.observed, Spent luid b
  given : ∀ luid, turn.answer = some (.ok luid) → luid ∈ turn.drawn
  full : turn.Exhausted → b.next = numericLimit
  refused : a.next = numericLimit → turn.Refused

variable {call : Call σ} {calls : List (Call σ)} {s : σ}

theorem perform_eq (call : Call σ) (a : IdAllocator) (s : σ) :
    call.perform a s = ((call.take a s).1.answer, (call.take a s).2) := by
  cases call with
  | allocate => rfl
  | observe luid => rfl
  | allocateWith taken =>
    obtain ⟨asked, answer, b, after, -, plain, noted⟩ := allocateWith_recorded taken a s []
    simp only [perform, take, plain, noted]

theorem takeAll_cons (call : Call σ) (calls : List (Call σ)) (a : IdAllocator) (s : σ) :
    takeAll (call :: calls) a s =
      ((call.take a s).1 :: (takeAll calls (call.take a s).2.1 (call.take a s).2.2).1,
        (takeAll calls (call.take a s).2.1 (call.take a s).2.2).2) := rfl

theorem performAll_eq (calls : List (Call σ)) (a : IdAllocator) (s : σ) :
    performAll calls a s = ((takeAll calls a s).1.map (·.answer), (takeAll calls a s).2) := by
  induction calls generalizing a s with
  | nil => rfl
  | cons call calls inductionHypothesis =>
    simp only [performAll, takeAll_cons, perform_eq, inductionHypothesis, List.map_cons]

theorem step (call : Call σ) (a : IdAllocator) (s : σ) :
    Step a (call.take a s).1 (call.take a s).2.1 := by
  cases call with
  | observe luid =>
    exact {
      draws := .none (next_le_observe luid a)
      spent := by simpa [take, perform, Turn.observed] using spent_observe luid a
      given := nofun
      full := nofun
      refused := fun _ => ⟨rfl, .inl ⟨luid, rfl⟩⟩ }
  | allocate =>
    simp only [take, perform, IdAllocator.allocate, Action.on_of]
    by_cases more : a.next < numericLimit
    · rw [dif_pos more]
      exact {
        draws := .one more
        spent := nofun
        given := by simp [Turn.drawn]
        full := nofun
        refused := fun full => absurd full (Nat.ne_of_lt more) }
    · rw [dif_neg more]
      exact {
        draws := .none (Nat.le_refl _)
        spent := nofun
        given := nofun
        full := fun _ => Nat.le_antisymm a.bounded (Nat.not_lt.1 more)
        refused := fun _ => ⟨rfl, .inr rfl⟩ }
  | allocateWith taken =>
    obtain ⟨asked, answer, b, after, search, -, noted⟩ := allocateWith_recorded taken a s []
    simp only [take, noted]
    exact {
      draws := by simpa [Turn.drawn] using search.draws
      spent := nofun
      given := by
        rintro luid ⟨⟩
        simpa [Turn.drawn] using search.mem_of_ok
      full := by
        rintro ⟨⟨⟩, noFailure⟩
        obtain ⟨inquiry, member, told⟩ | ⟨-, full⟩ := search.of_error
        · exact absurd told (noFailure inquiry (by simpa using member))
        · exact full
      refused := fun full => by
        obtain ⟨rfl, rfl, -⟩ := search.of_full full
        exact ⟨rfl, .inr rfl⟩ }

/-! ## Runs -/

/-- A record is cut where the calls are. -/
theorem takeAll_append (first second : List (Call σ)) (a : IdAllocator) (s : σ) :
    takeAll (first ++ second) a s =
      match takeAll first a s with
      | (turns, b, s) => match takeAll second b s with
        | (later, ended) => (turns ++ later, ended) := by
  induction first generalizing a s with
  | nil => rfl
  | cons call first inductionHypothesis =>
    simp only [List.cons_append, takeAll_cons, inductionHypothesis]

theorem takeAll_eq_append {earlier later : List (Turn σ)}
    (record : (takeAll calls a s).1 = earlier ++ later) :
    ∃ first second, calls = first ++ second ∧ (takeAll first a s).1 = earlier ∧
      (takeAll second (takeAll first a s).2.1 (takeAll first a s).2.2).1 = later := by
  induction earlier generalizing calls a s with
  | nil => exact ⟨[], calls, rfl, rfl, record⟩
  | cons turn earlier inductionHypothesis =>
    cases calls with
    | nil => cases record
    | cons call calls =>
      rw [takeAll_cons] at record
      obtain ⟨rfl, tail⟩ := List.cons.inj record
      obtain ⟨first, second, rfl, rfl, rfl⟩ := inductionHypothesis tail
      exact ⟨call :: first, second, rfl, rfl, rfl⟩

theorem draws_takeAll (calls : List (Call σ)) (a : IdAllocator) (s : σ) :
    Draws a ((takeAll calls a s).1.flatMap (·.drawn)) (takeAll calls a s).2.1 := by
  induction calls generalizing a s with
  | nil => exact .none (Nat.le_refl _)
  | cons call calls inductionHypothesis =>
    exact (step call a s).draws.append (inductionHypothesis _ _)

theorem spent_takeAll (calls : List (Call σ)) (a : IdAllocator) (s : σ) :
    ∀ luid ∈ (takeAll calls a s).1.flatMap (·.observed), Spent luid (takeAll calls a s).2.1 := by
  induction calls generalizing a s with
  | nil => exact nofun
  | cons call calls inductionHypothesis =>
    intro luid member
    simp only [takeAll_cons, List.flatMap_cons, List.mem_append] at member
    obtain now | later := member
    · exact ((step call a s).spent luid now).mono (draws_takeAll calls _ _).1
    · exact inductionHypothesis _ _ luid later

theorem given_takeAll (calls : List (Call σ)) (a : IdAllocator) (s : σ) :
    ∀ turn ∈ (takeAll calls a s).1, ∀ luid, turn.answer = some (.ok luid) → luid ∈ turn.drawn := by
  induction calls generalizing a s with
  | nil => exact nofun
  | cons call calls inductionHypothesis =>
    exact List.forall_mem_cons.2 ⟨(step call a s).given, inductionHypothesis _ _⟩

theorem refused_takeAll (calls : List (Call σ)) (s : σ) (full : a.next = numericLimit) :
    ∀ turn ∈ (takeAll calls a s).1, turn.Refused := by
  induction calls generalizing a s with
  | nil => exact nofun
  | cons call calls inductionHypothesis =>
    have rises : a.next ≤ (call.take a s).2.1.next := (step call a s).draws.1
    have stillFull := Nat.le_antisymm (call.take a s).2.1.bounded (full ▸ rises)
    exact List.forall_mem_cons.2 ⟨(step call a s).refused full, inductionHypothesis _ stillFull⟩

theorem full_of_exhausted {earlier later : List (Turn σ)} {turn : Turn σ}
    (record : (takeAll calls a s).1 = earlier ++ turn :: later) (exhausted : turn.Exhausted) :
    (takeAll calls a s).2.1.next = numericLimit ∧ ∀ next ∈ later, next.Refused := by
  induction earlier generalizing calls a s with
  | nil =>
    cases calls with
    | nil => cases record
    | cons call calls =>
      rw [takeAll_cons] at record
      obtain ⟨rfl, rfl⟩ := List.cons.inj record
      have full := (step call a s).full exhausted
      have rises := (draws_takeAll calls (call.take a s).2.1 (call.take a s).2.2).1
      exact ⟨Nat.le_antisymm (IdAllocator.bounded _) (full ▸ rises), refused_takeAll calls _ full⟩
  | cons first earlier inductionHypothesis =>
    cases calls with
    | nil => cases record
    | cons call calls =>
      rw [takeAll_cons] at record ⊢
      exact inductionHypothesis (List.cons.inj record).2

end Call

/-! ## Histories of an allocator -/

/-- How an allocator is made. -/
inductive Origin where
  | startingAt (first : Nat)
  | default
  | seeded (luids : List Luid)

namespace Origin

def allocator : Origin → IdAllocator
  | startingAt first => .startingAt first
  | default => Inhabited.default
  | seeded luids => .seeded luids

/-- The identifiers that the allocator knows from the start. -/
def known : Origin → List Luid
  | seeded luids => luids
  | _ => []

theorem spent_known (origin : Origin) : ∀ luid ∈ origin.known, Spent luid origin.allocator := by
  cases origin with
  | startingAt first => exact nofun
  | default => exact nofun
  | seeded luids => exact (spent_foldl_observe luids (.startingAt 1)).2

end Origin

open Call in
/-- However an allocator is made and called, what it draws are the texts of ascending numbers below the
limit, among them all that it gives.  It draws nothing that it knew from the start or was told of before,
its counter never falls, and where it has no number left it refuses every call from then on. -/
theorem draws_fresh_identifiers (origin : Origin) (calls : List (Call σ)) (s : σ) :
    performAll calls origin.allocator s =
      ((takeAll calls origin.allocator s).1.map (·.answer), (takeAll calls origin.allocator s).2) ∧
    (∃ numbers : List Nat,
      (takeAll calls origin.allocator s).1.flatMap (·.drawn) = numbers.map toString ∧
      numbers.Pairwise (· < ·) ∧ ∀ n ∈ numbers, n < numericLimit) ∧
    (∀ turn ∈ (takeAll calls origin.allocator s).1, ∀ luid,
      turn.answer = some (.ok luid) → luid ∈ turn.drawn) ∧
    (∀ luid ∈ origin.known, luid ∉ (takeAll calls origin.allocator s).1.flatMap (·.drawn)) ∧
    (∀ earlier later, (takeAll calls origin.allocator s).1 = earlier ++ later →
      ∀ luid ∈ earlier.flatMap (·.observed), luid ∉ later.flatMap (·.drawn)) ∧
    (∀ first second, calls = first ++ second →
      (takeAll first origin.allocator s).2.1.next ≤ (takeAll calls origin.allocator s).2.1.next) ∧
    (∀ earlier turn later, (takeAll calls origin.allocator s).1 = earlier ++ turn :: later →
      turn.Exhausted → (takeAll calls origin.allocator s).2.1.next = numericLimit ∧
        ∀ next ∈ later, next.Refused) := by
  have draws := draws_takeAll calls origin.allocator s
  refine ⟨performAll_eq _ _ _, ?_, given_takeAll _ _ _, ?_, ?_, ?_, ?_⟩
  · obtain ⟨-, numbers, texts, ascending, within⟩ := draws
    refine ⟨numbers, texts, ascending, fun n member => ?_⟩
    exact Nat.lt_of_lt_of_le (within n member).2 (IdAllocator.bounded _)
  · intro luid member
    exact (origin.spent_known luid member).not_mem draws
  · rintro earlier later record luid member
    obtain ⟨first, second, -, rfl, rfl⟩ := takeAll_eq_append record
    exact (spent_takeAll first _ s luid member).not_mem (draws_takeAll second _ _)
  · rintro first second rfl
    rw [takeAll_append]
    exact (draws_takeAll second _ _).1
  · rintro earlier turn later record exhausted
    exact full_of_exhausted record exhausted

/-- An allocator for items of which one has nearly the greatest number. -/
def crowded : Origin :=
  .seeded ["007", "x", "18446744073709551612", "99999999999999999999"]

/-- Calls that use up the last numbers: one of them is held by another item, under a text of its own. -/
def lastCalls : List (Call Unit) :=
  [.allocate, .observe "0018446744073709551614", .allocateWith fun _ => pure true, .observe "7",
    .allocate]

def lastTurns : List (Turn Unit) :=
  (Call.takeAll lastCalls crowded.allocator ()).1

theorem crowded_draws_fresh_identifiers :
    lastTurns.map (·.drawn) = [["18446744073709551613"], [], ["18446744073709551615"], [], []] ∧
    "18446744073709551612" ∉ lastTurns.flatMap (·.drawn) ∧
    "0018446744073709551614" ∉ (lastTurns.drop 2).flatMap (·.drawn) ∧
    ∀ next ∈ lastTurns.drop 3, next.Refused := by
  obtain ⟨-, -, -, unknown, unobserved, -, refuses⟩ := draws_fresh_identifiers crowded lastCalls ()
  refine ⟨by decide +kernel, unknown _ (by decide), ?_, ?_⟩
  · exact unobserved _ _ (List.take_append_drop 2 lastTurns).symm _ (by decide +kernel)
  · have more : 2 < lastTurns.length := by decide +kernel
    have exhausted : lastTurns[2].Exhausted := by decide +kernel +revert
    have cut : lastTurns = lastTurns.take 2 ++ lastTurns[2] :: lastTurns.drop 3 := by
      rw [List.getElem_cons_drop, List.take_append_drop]
    exact (refuses _ _ _ cut exhausted).2

end IdAllocator

end DataSync
