import TraceAgent.Proofs.Dictionary
import TraceAgent.Proofs.Text.Hexadecimal
import TraceAgent.Proofs.Text.Numeral
import TraceAgent.TraceId

/-! Why generated ids differ, whatever is drawn at random.

Behind its random part, an id names the thread that draws it by the place of the
thread in the order of first use, which no other thread ever gets. Then comes a
number from which both the time and the place in the sequence of the thread can be
read. So an id comes again only when a thread draws a whole period of them within
one millisecond.
-/

set_option autoImplicit false

namespace TraceAgent.RandomIds

/-- The parts of an id behind the random one can be read from it. -/
theorem compose_inj {random other : BitVec 128} {ordinal place : Nat} {sequence number : Int}
    (same : compose random ordinal sequence = compose other place number) :
    ordinal = place ∧ sequence = number := by
  have behind : Nat.toDigits 10 ordinal ++ '.' :: Numeral.ofInt sequence =
      Nat.toDigits 10 place ++ '.' :: Numeral.ofInt number := by
    have texts := String.ofList_injective same
    simp only [List.append_assoc, List.cons_append] at texts
    have rest := List.append_inj_right texts (by simp only [Hexadecimal.length_ofNat])
    exact List.tail_eq_of_cons_eq rest
  have dotless : ∀ count, '.' ∉ Nat.toDigits 10 count := by
    intro count member
    exact absurd (Numeral.isDigit_of_mem_toDigits member) (by decide)
  -- The first dot ends the ordinal.
  have fields := congrArg (·.splitOn '.') behind
  simp only [List.splitOn_append_cons_self_of_not_mem (dotless _), List.cons.injEq] at fields
  have ordinals := congrArg Numeral.natural? fields.1
  simp only [Numeral.natural?_toDigits, Option.some.injEq] at ordinals
  subst ordinals
  have numbers := congrArg Numeral.integer? (List.cons.inj (List.append_cancel_left behind)).2
  simp only [Numeral.integer?_ofInt, Option.some.injEq] at numbers
  exact ⟨rfl, numbers⟩

/-- What a thread does with the source of ids: it draws one at a time in milliseconds, or it ends, and
then another thread may take its number. -/
inductive Use where
  | draw (thread : Nat) (now : Int)
  | finish (thread : Nat)
  deriving DecidableEq, Repr

def Use.isDrawOf (thread : Nat) : Use → Bool
  | draw other _ => other == thread
  | finish _ => false

def use (ids : RandomIds) : Use → RandomIds
  | .draw thread now => (ids.generate thread now).1
  | .finish thread => ids.forget thread

def useAll (ids : RandomIds) (uses : List Use) : RandomIds := uses.foldl use ids

def drawnBy (ids : RandomIds) : List Use → List String
  | [] => []
  | .draw thread now :: rest =>
      (ids.generate thread now).2 :: (ids.use (.draw thread now)).drawnBy rest
  | .finish thread :: rest => (ids.use (.finish thread)).drawnBy rest

variable {ids : RandomIds} {thread other ordinal last : Nat} {now later : Int}

theorem generate_id (ids : RandomIds) (thread : Nat) (now : Int) :
    (ids.generate thread now).2 =
      compose (ids.draws ids.drawn) (ids.sequence thread).ordinal
        (now * period + (((ids.sequence thread).last + 1) % period : Nat)) := rfl

theorem useAll_append (ids : RandomIds) (uses more : List Use) :
    ids.useAll (uses ++ more) = (ids.useAll uses).useAll more := List.foldl_append

theorem lookup_generate (ids : RandomIds) (thread : Nat) (now : Int) (other : Nat) :
    (ids.generate thread now).1.threads.lookup other =
      if other = thread then
        some ⟨(ids.sequence thread).ordinal, ((ids.sequence thread).last + 1) % period⟩
      else ids.threads.lookup other := by
  by_cases same : other = thread
  · simp [generate, same]
  · have apart : (other == thread) = false := beq_false_of_ne same
    simp [generate, same, apart, List.lookup_cons, lookup_filter_ne]

theorem lookup_forget (ids : RandomIds) (thread other : Nat) :
    (ids.forget thread).threads.lookup other =
      if other = thread then none else ids.threads.lookup other := by
  by_cases same : other = thread
  · simp [forget, same, lookup_filter_self]
  · simp [forget, same, lookup_filter_ne]

theorem sequence_of_lookup {current : ThreadSequence}
    (known : ids.threads.lookup thread = some current) : ids.sequence thread = current := by
  simp [sequence, known]

theorem sequence_of_unknown (unknown : ids.threads.lookup thread = none) :
    ids.sequence thread = ⟨ids.nextOrdinal, 0⟩ := by
  simp [sequence, unknown]

/-- The place is given out, and of the threads that draw now none but these has it. -/
structure Confined (ids : RandomIds) (ordinal : Nat) (threads : Nat → Prop) : Prop where
  given : ordinal < ids.nextOrdinal
  held : ∀ thread current, ids.threads.lookup thread = some current →
    current.ordinal = ordinal → threads thread

namespace Confined

variable {threads : Nat → Prop}

theorem generate (confined : ids.Confined ordinal threads) (thread : Nat) (now : Int) :
    (ids.generate thread now).1.Confined ordinal threads := by
  obtain ⟨given, held⟩ := confined
  constructor
  · simp only [RandomIds.generate]
    split <;> omega
  · intro other current known same
    rw [lookup_generate] at known
    split at known
    next itself =>
      -- A thread keeps its place, or gets one that no thread had before.
      subst itself
      cases before : ids.threads.lookup other with
      | some earlier =>
        rw [sequence_of_lookup before] at known
        cases known
        exact held other earlier before same
      | none =>
        rw [sequence_of_unknown before] at known
        cases known
        dsimp only at same
        omega
    next => exact held other current known same

theorem forget (confined : ids.Confined ordinal threads) (thread : Nat) :
    (ids.forget thread).Confined ordinal fun other => threads other ∧ other ≠ thread := by
  refine ⟨confined.given, ?_⟩
  intro other current known same
  rw [lookup_forget] at known
  split at known
  next => cases known
  next apart => exact ⟨confined.held other current known same, apart⟩

theorem mono {fewer : Nat → Prop} (confined : ids.Confined ordinal fewer)
    (within : ∀ thread, fewer thread → threads thread) : ids.Confined ordinal threads :=
  ⟨confined.given, fun thread current known same => within thread
    (confined.held thread current known same)⟩

theorem use (confined : ids.Confined ordinal threads) (use : Use) :
    (ids.use use).Confined ordinal threads := by
  cases use with
  | draw thread now => exact confined.generate thread now
  | finish thread => exact (confined.forget thread).mono fun _ held => held.1

theorem useAll (confined : ids.Confined ordinal threads) (uses : List Use) :
    (ids.useAll uses).Confined ordinal threads := by
  induction uses generalizing ids with
  | nil => exact confined
  | cons first rest ih => exact ih (confined.use first)

theorem useAll_of_finish {uses : List Use} (confined : ids.Confined ordinal (· = thread))
    (ends : .finish thread ∈ uses) : (ids.useAll uses).Confined ordinal fun _ => False := by
  obtain ⟨before, after, rfl⟩ := List.append_of_mem ends
  rw [useAll_append]
  have left := (confined.useAll before).forget thread
  exact (left.mono fun other held => held.2 held.1).useAll after

theorem of_sequence (confined : ids.Confined ordinal threads)
    (same : (ids.sequence thread).ordinal = ordinal) : threads thread := by
  cases known : ids.threads.lookup thread with
  | some current =>
    rw [sequence_of_lookup known] at same
    exact confined.held thread current known same
  | none =>
    rw [sequence_of_unknown known] at same
    have given := confined.given
    dsimp only at same
    omega

end Confined

/-- Each thread has a place of its own. -/
def Apart (ids : RandomIds) : Prop :=
  ∀ thread current, ids.threads.lookup thread = some current →
    ids.Confined current.ordinal (· = thread)

theorem Apart.generate (apart : ids.Apart) (thread : Nat) (now : Int) :
    (ids.generate thread now).1.Apart := by
  intro other current known
  rw [lookup_generate] at known
  split at known
  next itself =>
    subst itself
    cases known
    cases before : ids.threads.lookup other with
    | some earlier =>
      rw [sequence_of_lookup before]
      exact (apart other earlier before).generate other now
    | none =>
      rw [sequence_of_unknown before]
      constructor
      · simp [RandomIds.generate, before]
      · intro holder held found same
        rw [lookup_generate] at found
        split at found
        next equal => exact equal
        next =>
          -- The places that were given out before are all below the new one.
          have given := (apart holder held found).given
          dsimp only at same
          omega
  next => exact (apart other current known).generate thread now

theorem Apart.forget (apart : ids.Apart) (thread : Nat) : (ids.forget thread).Apart := by
  intro other current known
  rw [lookup_forget] at known
  split at known
  next => cases known
  next => exact ((apart other current known).forget thread).mono fun _ held => held.1

theorem Apart.useAll (apart : ids.Apart) (uses : List Use) : (ids.useAll uses).Apart := by
  induction uses generalizing ids with
  | nil => exact apart
  | cons first rest ih =>
    cases first with
    | draw thread now => exact ih (apart.generate thread now)
    | finish thread => exact ih (apart.forget thread)

/-- As long as a thread does not end, its sequence goes on with each id that it draws. -/
theorem lookup_useAll {uses : List Use} (known : ids.threads.lookup thread = some ⟨ordinal, last⟩)
    (inPeriod : last < period) (stays : .finish thread ∉ uses) :
    (ids.useAll uses).threads.lookup thread =
      some ⟨ordinal, (last + uses.countP (·.isDrawOf thread)) % period⟩ := by
  induction uses generalizing ids last with
  | nil => simpa [useAll, Nat.mod_eq_of_lt inPeriod] using known
  | cons first rest ih =>
    obtain ⟨apart, remains⟩ := not_or.mp fun listed => stays (List.mem_cons.mpr listed)
    have positive : 0 < period := by decide
    cases first with
    | draw other now =>
      have next := lookup_generate ids other now thread
      by_cases same : thread = other
      · subst same
        rw [if_pos rfl, sequence_of_lookup known] at next
        have onwards := ih next (Nat.mod_lt _ positive) remains
        rw [Nat.mod_add_mod] at onwards
        simpa [useAll, use, Use.isDrawOf, Nat.add_assoc, Nat.add_comm 1] using onwards
      · rw [if_neg same] at next
        have onwards := ih (next.trans known) inPeriod remains
        simpa [useAll, use, Use.isDrawOf, Ne.symm same] using onwards
    | finish other =>
      have different : thread ≠ other := fun same => apart (same ▸ rfl)
      have next := lookup_forget ids other thread
      rw [if_neg different] at next
      have onwards := ih (next.trans known) inPeriod remains
      simpa [useAll, use, Use.isDrawOf] using onwards

/-- An id that is drawn before others does not come again, unless the same thread draws it at the same
time and a multiple of the period later. -/
theorem Apart.of_same_id {between : List Use} (apart : ids.Apart)
    (same : (ids.generate thread now).2 =
      (((ids.use (.draw thread now)).useAll between).generate other later).2) :
    other = thread ∧ .finish thread ∉ between ∧ later = now ∧
      period ∣ between.countP (·.isDrawOf thread) + 1 := by
  obtain ⟨places, numbers⟩ := compose_inj same
  have drawn := lookup_generate ids thread now thread
  rw [if_pos rfl] at drawn
  have confined := apart.generate thread now thread _ drawn
  have itself : other = thread := (confined.useAll between).of_sequence places.symm
  have stays : .finish thread ∉ between := fun ends =>
    (confined.useAll_of_finish ends).of_sequence places.symm
  subst itself
  have known : ((ids.use (.draw other now)).useAll between).threads.lookup other = _ :=
    lookup_useAll drawn (Nat.mod_lt _ (by decide)) stays
  rw [sequence_of_lookup known] at numbers
  -- The time and the place in the period are the quotient and the rest of the number.
  simp only [period] at numbers
  refine ⟨rfl, stays, ?_, ?_⟩
  · omega
  · rw [period]
    omega

theorem exists_of_mem_drawnBy {uses : List Use} {id : String} (member : id ∈ ids.drawnBy uses) :
    ∃ before thread now after, uses = before ++ .draw thread now :: after ∧
      ((ids.useAll before).generate thread now).2 = id := by
  induction uses generalizing ids with
  | nil => cases member
  | cons first rest ih =>
    cases first with
    | draw thread now =>
      rcases List.mem_cons.mp member with rfl | member
      · exact ⟨[], thread, now, rest, rfl, rfl⟩
      · obtain ⟨before, other, later, after, rfl, same⟩ := ih member
        exact ⟨.draw thread now :: before, other, later, after, rfl, same⟩
    | finish thread =>
      obtain ⟨before, other, later, after, rfl, same⟩ := ih member
      exact ⟨.finish thread :: before, other, later, after, rfl, same⟩

def Steady (uses : List Use) : Prop :=
  uses.Pairwise fun first second => ∀ thread now later,
    first = .draw thread now → second = .draw thread later → now ≤ later

/-- As long as a thread does not end, it draws no more than a period of ids in a millisecond. -/
def Sparing (uses : List Use) : Prop :=
  ∀ part, part <:+: uses → ∀ thread now, .finish thread ∉ part →
    part.count (.draw thread now) ≤ period

theorem Sparing.of_length {uses : List Use} (few : uses.length ≤ period) : Sparing uses := by
  intro part inside thread now _
  exact Nat.le_trans List.count_le_length (Nat.le_trans inside.length_le few)

theorem Apart.nodup_drawnBy {uses : List Use} (apart : ids.Apart) (steady : Steady uses)
    (sparing : Sparing uses) : (ids.drawnBy uses).Nodup := by
  induction uses generalizing ids with
  | nil => exact List.nodup_nil
  | cons first rest ih =>
    obtain ⟨onwards, steadyRest⟩ := List.pairwise_cons.mp steady
    have sparingRest : Sparing rest := fun part inside =>
      sparing part (inside.trans (List.suffix_cons first rest).isInfix)
    cases first with
    | finish thread => exact ih (apart.forget thread) steadyRest sparingRest
    | draw thread now =>
      refine List.nodup_cons.mpr ⟨?_, ih (apart.generate thread now) steadyRest sparingRest⟩
      intro member
      obtain ⟨between, other, later, after, rfl, same⟩ := exists_of_mem_drawnBy member
      obtain ⟨rfl, stays, rfl, rounds⟩ := apart.of_same_id same.symm
      -- All ids that the thread draws in between are of the same millisecond.
      have instant : between.countP (·.isDrawOf other) = between.count (.draw other later) := by
        apply List.countP_congr
        intro use inside
        cases use with
        | finish thread => simp [Use.isDrawOf]
        | draw thread time =>
          simp only [Use.isDrawOf, beq_iff_eq, Use.draw.injEq, iff_self_and]
          rintro rfl
          have atLeast := onwards _ (List.mem_append_left _ inside) thread later time rfl rfl
          have atMost := (List.pairwise_append.mp steadyRest).2.2 _ inside _ List.mem_cons_self
            thread time later rfl rfl
          omega
      have spared := sparing (.draw other later :: between ++ [.draw other later])
        ⟨[], after, by simp⟩ other later (by simpa using stays)
      simp only [List.cons_append, List.count_cons_self, List.count_append, List.count_nil] at spared
      rw [instant] at rounds
      have reached := Nat.le_of_dvd (Nat.succ_pos _) rounds
      omega

/-- Whatever is drawn at random, and however the draws and the ends of threads follow each other, two
ids differ unless the same thread draws them at the same time and a multiple of the period apart. So
no id comes twice as long as the clock does not go back and no thread draws more than a period of ids
within one millisecond. -/
theorem drawn_ids_differ (draws : Nat → BitVec 128) :
    (∀ before between thread other now later,
        ((useAll { draws } before).generate thread now).2 =
          ((useAll { draws } (before ++ .draw thread now :: between)).generate other later).2 →
        other = thread ∧ .finish thread ∉ between ∧ later = now ∧
          period ∣ between.countP (·.isDrawOf thread) + 1) ∧
      ∀ uses, Steady uses → Sparing uses → (drawnBy { draws } uses).Nodup := by
  have fresh : Apart { draws } := fun _ _ => (nomatch ·)
  constructor
  · intro before between thread other now later same
    rw [useAll_append] at same
    exact (fresh.useAll before).of_same_id same
  · intro uses steady sparing
    exact fresh.nodup_drawnBy steady sparing

theorem draws_useAll (ids : RandomIds) (uses : List Use) : (ids.useAll uses).draws = ids.draws := by
  induction uses generalizing ids with
  | nil => rfl
  | cons first rest ih => cases first <;> exact ih _

/-- If the same is drawn at random, an id does come again after a period. -/
theorem id_comes_again {between : List Use} (unvaried : ∀ count more, ids.draws count = ids.draws more)
    (stays : .finish thread ∉ between) (rounds : period ∣ between.countP (·.isDrawOf thread) + 1) :
    (ids.generate thread now).2 =
      ((ids.useAll (.draw thread now :: between)).generate thread now).2 := by
  change _ = (((ids.use (.draw thread now)).useAll between).generate thread now).2
  have drawn := lookup_generate ids thread now thread
  rw [if_pos rfl] at drawn
  have known : ((ids.use (.draw thread now)).useAll between).threads.lookup thread = _ :=
    lookup_useAll drawn (Nat.mod_lt _ (by decide)) stays
  have draws : ((ids.use (.draw thread now)).useAll between).draws = ids.draws :=
    draws_useAll _ between
  rw [generate_id, generate_id, sequence_of_lookup known, draws, unvaried]
  dsimp only
  congr 3
  simp only [period] at rounds ⊢
  omega

def turns : List Use :=
  [.draw 0 5, .draw 1 5, .draw 0 5, .finish 1, .draw 1 5, .draw 0 6]

/-- Without any randomness, the ids of these turns differ; a thread that draws a period of ids at one
time draws the first one again. -/
theorem turns_differ :
    Steady turns ∧ Sparing turns ∧ (drawnBy { draws := fun _ => 0 } turns).Nodup ∧
      (generate { draws := fun _ => 0 } 0 5).2 =
        ((useAll { draws := fun _ => 0 }
          (.draw 0 5 :: List.replicate (period - 1) (.draw 0 5))).generate 0 5).2 ∧
      period ∣ (List.replicate (period - 1) (Use.draw 0 5)).countP (·.isDrawOf 0) + 1 := by
  have steady : Steady turns := by
    simp [Steady, turns]
    grind
  have sparing : Sparing turns := Sparing.of_length (by decide)
  have count : (List.replicate (period - 1) (Use.draw 0 5)).countP (·.isDrawOf 0) + 1 = period := by
    rw [List.countP_replicate, if_pos (by decide)]
    decide
  have stays : .finish 0 ∉ List.replicate (period - 1) (Use.draw 0 5) := fun ends =>
    nomatch List.eq_of_mem_replicate ends
  have again := @id_comes_again { draws := fun _ => 0 } 0 5 _ (fun _ _ => rfl) stays
    ⟨1, by rw [count, Nat.mul_one]⟩
  obtain ⟨apart, nodup⟩ := drawn_ids_differ fun _ => 0
  exact ⟨steady, sparing, nodup turns steady sparing, again, (apart [] _ 0 0 5 5 again).2.2.2⟩

end TraceAgent.RandomIds
