import PilotingMavsdk.Library.Transducer

/-! Readers that cut frames out of a stream of symbols. Certain symbols begin a frame, in a mode of
their own, and the symbols behind them tell when it is complete or spoiled. -/

namespace PilotingMavsdk.Library

/-- What is known of a frame of which some symbols have been read. One that is spoiled may have
ended with the first symbol of another. -/
inductive Verdict (Mode : Type) where
  | more
  | complete
  | spoiled (again : Option Mode)

/-- The mode of a frame and the symbols behind its first one. -/
abbrev Body (Symbol Mode : Type) := Mode × List Symbol

/-- What a reader keeps, and what it hands on. -/
def Verdict.after {Symbol Mode : Type} (mode : Mode) (body : List Symbol) :
    Verdict Mode → Option (Body Symbol Mode) × List (Body Symbol Mode)
  | .more => (some (mode, body), [])
  | .complete => (none, [(mode, body)])
  | .spoiled again => (again.map fun mode => (mode, []), [])

structure Framing (Symbol Mode : Type) where
  starts : Symbol → Option Mode
  verdict : Mode → List Symbol → Verdict Mode
  restarts : ∀ {mode again : Mode} {body : List Symbol} {symbol : Symbol},
    verdict mode (body ++ [symbol]) = .spoiled (some again) → (starts symbol).isSome

namespace Framing
variable {Symbol Mode : Type} (framing : Framing Symbol Mode)

/-- Outside of a frame the state is `none`. -/
def read : Option (Body Symbol Mode) → Symbol → Option (Body Symbol Mode) × List (Body Symbol Mode)
  | none, symbol => ((framing.starts symbol).map fun mode => (mode, []), [])
  | some (mode, body), symbol =>
    (framing.verdict mode (body ++ [symbol])).after mode (body ++ [symbol])

/-- After each of its symbols the frame goes on. -/
def Open (mode : Mode) (body : List Symbol) : Prop :=
  ∀ count, 0 < count → count ≤ body.length → framing.verdict mode (body.take count) = .more

/-- With its last symbol, and not before, the frame ends in this way. -/
structure Ends (mode : Mode) (body : List Symbol) (verdict : Verdict Mode) : Prop where
  nonempty : body ≠ []
  unfinished : framing.Open mode body.dropLast
  last : framing.verdict mode body = verdict

variable {framing}

theorem open_nil (mode : Mode) : framing.Open mode ([] : List Symbol) := by
  intro count positive none
  rw [List.length_nil] at none
  omega

theorem Open.snoc {mode : Mode} {body : List Symbol} {symbol : Symbol}
    (opened : framing.Open mode body)
    (more : framing.verdict mode (body ++ [symbol]) = .more) :
    framing.Open mode (body ++ [symbol]) := by
  intro count positive inside
  rw [List.length_append, List.length_singleton] at inside
  rcases Nat.lt_or_eq_of_le inside with before | whole
  · rw [List.take_append_of_le_length (by omega)]
    exact opened count positive (by omega)
  · rw [List.take_of_length_le (by simp [whole])]
    exact more

theorem transduce_open {mode : Mode} (body further : List Symbol)
    (opened : framing.Open mode (body ++ further)) :
    transduce framing.read (some (mode, body)) further = (some (mode, body ++ further), []) := by
  induction further generalizing body with
  | nil => rw [List.append_nil]; rfl
  | cons symbol further ih =>
    have regrouped : body ++ symbol :: further = (body ++ [symbol]) ++ further := by simp
    have more : framing.verdict mode (body ++ [symbol]) = .more := by
      have taken := opened (body.length + 1) (by omega) (by simp)
      rwa [regrouped, List.take_left' (by simp)] at taken
    have step : framing.read (some (mode, body)) symbol = (some (mode, body ++ [symbol]), []) := by
      rw [read, more]
      rfl
    rw [regrouped] at opened
    rw [transduce, step, ih _ opened, regrouped, List.nil_append]

theorem transduce_ends {mode : Mode} {start : Symbol} {body : List Symbol}
    {verdict : Verdict Mode} (begins : framing.starts start = some mode)
    (ends : framing.Ends mode body verdict) :
    transduce framing.read none (start :: body) = verdict.after mode body := by
  have first : framing.read none start = (some (mode, []), []) := by rw [read, begins]; rfl
  have parts := List.dropLast_concat_getLast ends.nonempty
  have kept := transduce_open [] body.dropLast ends.unfinished
  rw [List.nil_append] at kept
  rw [transduce, first]
  conv_lhs => rw [← parts]
  rw [transduce_append, kept]
  simp only [List.nil_append, transduce, List.append_nil, read, parts, ends.last]

/-- No frame begins with it. -/
def Quiet (framing : Framing Symbol Mode) (symbol : Symbol) : Prop := framing.starts symbol = none

theorem transduce_quiet {stretch : List Symbol} (quiet : ∀ symbol ∈ stretch, framing.Quiet symbol) :
    transduce framing.read none stretch = (none, []) := by
  induction stretch with
  | nil => rfl
  | cons symbol stretch ih =>
    have here : framing.read none symbol = (none, []) := by
      rw [read, quiet symbol List.mem_cons_self]
      rfl
    rw [transduce, here, ih fun later member => quiet later (List.mem_cons_of_mem symbol member)]
    rfl

/-- Frames come to an end after so many symbols. -/
def Bounded (framing : Framing Symbol Mode) (limit : Nat) : Prop :=
  ∀ mode body, framing.verdict mode body = .more → body.length < limit

theorem read_quiet {mode : Mode} {body : List Symbol} {symbol : Symbol}
    (quiet : framing.Quiet symbol) :
    (framing.read (some (mode, body)) symbol).1 = none ∨
      (framing.read (some (mode, body)) symbol).1 = some (mode, body ++ [symbol]) ∧
        framing.verdict mode (body ++ [symbol]) = .more := by
  rw [read]
  cases judged : framing.verdict mode (body ++ [symbol]) with
  | more => exact .inr ⟨rfl, rfl⟩
  | complete => exact .inl rfl
  | spoiled again =>
    cases again with
    | none => exact .inl rfl
    | some again =>
      have begins := framing.restarts judged
      rw [quiet] at begins
      cases begins

theorem transduce_recovers {limit : Nat} (bounded : framing.Bounded limit)
    (state : Option (Body Symbol Mode)) {stretch : List Symbol}
    (quiet : ∀ symbol ∈ stretch, framing.Quiet symbol) (long : limit ≤ stretch.length)
    (positive : 0 < limit) :
    (transduce framing.read state stretch).1 = none := by
  have remaining (body : List Symbol) (mode : Mode)
      (enough : limit ≤ body.length + stretch.length) (nonempty : stretch ≠ []) :
      (transduce framing.read (some (mode, body)) stretch).1 = none := by
    clear long
    induction stretch generalizing body with
    | nil => exact absurd rfl nonempty
    | cons symbol stretch ih =>
      have rest : ∀ later ∈ stretch, framing.Quiet later := fun later member =>
        quiet later (List.mem_cons_of_mem symbol member)
      rw [transduce]
      rcases @read_quiet _ _ framing mode body symbol (quiet symbol List.mem_cons_self) with
        ended | ⟨longer, more⟩
      · rw [ended, transduce_quiet rest]
      · have short := bounded mode _ more
        rw [List.length_append, List.length_singleton] at short
        rw [List.length_cons] at enough
        have left : stretch ≠ [] := by
          intro empty
          rw [empty, List.length_nil] at enough
          omega
        rw [longer]
        exact ih rest _ (by rw [List.length_append, List.length_singleton]; omega) left
  cases state with
  | none => rw [transduce_quiet quiet]
  | some pending =>
    refine remaining pending.2 pending.1 (by omega) ?_
    intro empty
    rw [empty, List.length_nil] at long
    omega

/-- The frames lie in the stream one behind the other, each with a first symbol and complete. -/
inductive Occur (framing : Framing Symbol Mode) : List (Body Symbol Mode) → List Symbol → Prop where
  | nil : Occur framing [] []
  | skip (symbol : Symbol) {frames : List (Body Symbol Mode)} {stream : List Symbol}
      (rest : Occur framing frames stream) : Occur framing frames (symbol :: stream)
  | frame {start : Symbol} {mode : Mode} {body : List Symbol} {frames : List (Body Symbol Mode)}
      {stream : List Symbol} (begins : (framing.starts start).isSome)
      (ends : framing.Ends mode body .complete) (rest : Occur framing frames stream) :
      Occur framing ((mode, body) :: frames) (start :: body ++ stream)

theorem Occur.skips {frames : List (Body Symbol Mode)} (skipped : List Symbol)
    {stream : List Symbol} (rest : framing.Occur frames stream) :
    framing.Occur frames (skipped ++ stream) := by
  induction skipped with
  | nil => exact rest
  | cons symbol skipped ih => exact .skip symbol ih

theorem occur_of_open {start : Symbol} {mode : Mode} {body : List Symbol}
    (begins : (framing.starts start).isSome) (opened : framing.Open mode body)
    (stream : List Symbol)
    (idle : ∀ shorter : List Symbol, shorter.length < stream.length →
      framing.Occur (transduce framing.read none shorter).2 shorter) :
    framing.Occur (transduce framing.read (some (mode, body)) stream).2
      (start :: body ++ stream) := by
  induction stream generalizing start mode body with
  | nil =>
    rw [List.append_nil, ← List.append_nil (start :: body)]
    exact Occur.nil.skips (start :: body)
  | cons symbol stream ih =>
    have later : ∀ shorter : List Symbol, shorter.length < stream.length →
        framing.Occur (transduce framing.read none shorter).2 shorter := by
      intro shorter less
      exact idle shorter (Nat.lt_succ_of_lt less)
    have regrouped : start :: body ++ symbol :: stream = (start :: (body ++ [symbol])) ++ stream := by
      simp
    cases judged : framing.verdict mode (body ++ [symbol]) with
    | more =>
      have step : framing.read (some (mode, body)) symbol = (some (mode, body ++ [symbol]), []) := by
        rw [read, judged]
        rfl
      rw [transduce, step, regrouped]
      exact ih begins (opened.snoc judged) later
    | complete =>
      have step : framing.read (some (mode, body)) symbol = (none, [(mode, body ++ [symbol])]) := by
        rw [read, judged]
        rfl
      have ends : framing.Ends mode (body ++ [symbol]) .complete :=
        ⟨by simp, by rwa [List.dropLast_concat], judged⟩
      rw [transduce, step, regrouped]
      exact .frame begins ends (idle stream (Nat.lt_succ_self _))
    | spoiled again =>
      cases again with
      | none =>
        have step : framing.read (some (mode, body)) symbol = (none, []) := by rw [read, judged]; rfl
        rw [transduce, step, regrouped]
        exact (idle stream (Nat.lt_succ_self _)).skips _
      | some again =>
        have step : framing.read (some (mode, body)) symbol = (some (again, []), []) := by
          rw [read, judged]
          rfl
        have next := @ih symbol again []
          (framing.restarts judged) (open_nil again) later
        rw [transduce, step]
        exact next.skips (start :: body)

/-- A frame that is handed on has been read in one piece, and no symbol belongs to two frames. -/
theorem occur_transduce (stream : List Symbol) :
    framing.Occur (transduce framing.read none stream).2 stream := by
  induction length : stream.length using Nat.strongRecOn generalizing stream with
  | ind size ih =>
    cases stream with
    | nil => exact .nil
    | cons symbol stream =>
      have shorter : ∀ other : List Symbol, other.length < stream.length + 1 →
          framing.Occur (transduce framing.read none other).2 other := by
        intro other less
        rw [List.length_cons] at length
        exact ih other.length (by omega) other rfl
      cases begins : framing.starts symbol with
      | none =>
        have step : framing.read none symbol = (none, []) := by rw [read, begins]; rfl
        rw [transduce, step]
        exact .skip symbol (shorter stream (Nat.lt_succ_self _))
      | some mode =>
        have step : framing.read none symbol = (some (mode, []), []) := by rw [read, begins]; rfl
        rw [transduce, step]
        exact occur_of_open (by rw [begins]; rfl) (open_nil mode) stream
          fun other less => shorter other (Nat.lt_succ_of_lt less)

end Framing
end PilotingMavsdk.Library
