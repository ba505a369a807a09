import TraceAgent.Proofs.Propagation.OriginHeader
import TraceAgent.Proofs.Propagation.RoundTrip

/-! Which flags are read back from their header.

A dash divides the flag from the time, and it is also the sign of a time before the
epoch. The reader divides at every dash, so it takes such a time for no time at
all; all other flags are read back as they were written. For the same reason no
text at all is read as a time before the epoch.
-/

set_option autoImplicit false

namespace TraceAgent.Propagation.Extension

variable {extension : Extension}

/-- The sign of a time divides the header: what stands before it is empty, and what follows it is
not looked at. -/
theorem read?_write_of_neg {time : Int} (dated : extension.sentAt = some time) (before : time < 0) :
    read? extension.write = some { extension with sentAt := none } := by
  obtain ⟨skip, sentAt⟩ := extension
  cases dated
  obtain ⟨count, rfl⟩ := Int.eq_negSucc_of_lt_zero before
  have divided : (write ⟨skip, some (.negSucc count)⟩).toList.splitOn '-' =
      [if skip then '1' else '0'] :: [] :: (Nat.toDigits 10 (count + 1)).splitOn '-' := by
    cases skip <;> simp [write, Numeral.ofInt, List.splitOn_cons_eq_if_modifyHead]
  cases skip <;> simp [read?, divided, readFlag?, readTime?]

/-- The time of an extension, unless it lies before the epoch. -/
def withoutPast (extension : Extension) : Extension :=
  { extension with sentAt := extension.sentAt.filter (0 ≤ ·) }

theorem withoutPast_eq_self :
    extension.withoutPast = extension ↔ ∀ time, extension.sentAt = some time → 0 ≤ time := by
  obtain ⟨skip, sentAt⟩ := extension
  cases sentAt with
  | none => simp [withoutPast]
  | some time => simp [withoutPast, Option.filter]

/-- Whatever flags are written, what is read of them is all but a time before the epoch. -/
theorem read?_write_eq
    (fits : ∀ time, extension.sentAt = some time → Numeral.InWidth 64 time) :
    read? extension.write = some extension.withoutPast := by
  by_cases present : ∀ time, extension.sentAt = some time → 0 ≤ time
  · rw [withoutPast_eq_self.mpr present]
    exact read?_write fun time dated => ⟨present time dated, fits time dated⟩
  · simp only [not_forall, Int.not_le] at present
    obtain ⟨time, dated, before⟩ := present
    rw [read?_write_of_neg dated before]
    simp [withoutPast, dated, Option.filter, before]

/-- The header of an extension is taken over, whatever was known before, except for a time before the
epoch: then no time is known. So the extensions that are received as they were written are those
whose time, if they have one, is not negative. -/
theorem receive_write_eq_self_iff (earlier : Extension)
    (fits : ∀ time, extension.sentAt = some time → Numeral.InWidth 64 time) :
    earlier.receive (some extension.write) = extension.withoutPast ∧
      (earlier.receive (some extension.write) = extension ↔
        ∀ time, extension.sentAt = some time → 0 ≤ time) := by
  have written := extension.write_ne_empty
  have received : earlier.receive (some extension.write) = extension.withoutPast := by
    simp [receive, stated, Option.filter, written, read?_write_eq fits]
  exact ⟨received, by rw [received, withoutPast_eq_self]⟩

/-- A time after the epoch is read back, and one before it is not. -/
theorem receive_write_of_times :
    receive { skipAnalysis := true } (some (write { sentAt := some 1700000000000 })) =
        { sentAt := some 1700000000000 } ∧
      receive { sentAt := some 3 } (some (write { skipAnalysis := true, sentAt := some (-5) })) =
        { skipAnalysis := true } := by
  obtain ⟨_, later⟩ := @receive_write_eq_self_iff { sentAt := some 1700000000000 }
    { skipAnalysis := true } (by rintro _ ⟨⟩; decide)
  obtain ⟨earlier, _⟩ := @receive_write_eq_self_iff
    { skipAnalysis := true, sentAt := some (-5) } { sentAt := some 3 } (by rintro _ ⟨⟩; decide)
  exact ⟨later.mpr (by rintro _ ⟨⟩; decide), earlier⟩

/-- The header of a time just before the epoch is read, and not as what was written. -/
theorem negative_time_lost :
    write { sentAt := some (-5) } = "0--5" ∧ Numeral.InWidth 64 (-5) ∧
      receive {} (some (write { sentAt := some (-5) })) = {} ∧
      receive {} (some (write { sentAt := some (-5) })) ≠ { sentAt := some (-5) } := by
  decide +kernel

def IsTime (time : Int) : Prop := 0 ≤ time ∧ Numeral.InWidth 64 time

instance (time : Int) : Decidable (IsTime time) := inferInstanceAs (Decidable (_ ∧ _))

def IsTimely (extension : Extension) : Prop := ∀ time, extension.sentAt = some time → IsTime time

/-- Between two such times there are never more milliseconds than fit into a word. -/
theorem IsTime.sub {now sent : Int} (later : IsTime now) (earlier : IsTime sent) :
    Numeral.InWidth 64 (now - sent) := by
  simp only [IsTime, Numeral.InWidth] at *
  omega

theorem isTimely_of_read? {text : String} (reads : read? text = some extension) :
    extension.IsTimely := by
  intro time dated
  have undashed := divider_not_mem_splitOn '-' text.toList
  unfold read? at reads
  generalize text.toList.splitOn '-' = parts at reads undashed
  cases parts with
  | nil => cases reads
  | cons flag rest =>
    simp only [Option.bind_eq_bind, Option.bind_eq_some_iff, Option.some.injEq] at reads
    obtain ⟨skip, _, sentAt, stamp, rfl⟩ := reads
    obtain rfl : sentAt = some time := dated
    unfold readTime? at stamp
    split at stamp
    · cases stamp
    · cases stamp
    next numeral later _ =>
      -- Digits without a sign are left of a part in which there is no dash.
      obtain ⟨number, read, same⟩ := Option.map_eq_some_iff.mp stamp
      cases same
      have listed : numeral ∈ flag :: numeral :: later := by simp
      obtain ⟨natural, _⟩ := Numeral.ofInt_of_signed? (undashed numeral listed) read
      have fits := (Option.filter_eq_some_iff.mp read).2
      exact ⟨natural, of_decide_eq_true fits⟩

theorem IsTimely.receive (timely : extension.IsTimely) (text : Option String) :
    (extension.receive text).IsTimely := by
  unfold Extension.receive
  cases reads : (stated text).bind read? with
  | none => exact timely
  | some taken =>
    obtain ⟨_, _, read⟩ := Option.bind_eq_some_iff.mp reads
    exact isTimely_of_read? read

theorem IsTimely.sentNow {now : Int} (clock : IsTime now) (extension : Extension) :
    (extension.sentNow now).IsTimely := by
  intro time stamped
  cases stamped
  exact clock

end TraceAgent.Propagation.Extension
