import Mathlib.Data.UInt
import OspfMdr.Model.Hello

namespace OspfMdr.Ospf6

variable {oi : HelloDelay} {now : Nat}

/-- Milliseconds until one Hello interval after the last Hello. -/
def HelloDelay.remaining (oi : HelloDelay) (now : Nat) : Int :=
  1000 * oi.helloInterval.toNat - if oi.lastHelloTime ≠ 0 then oi.elapsedMsec now else 0

/-- The Hello is sent no later than was planned, and the back-off does not shrink. -/
structure OnTime (oi : HelloDelay) (now : Nat) : Prop where
  delay : ((ospf6ScheduleImmediateHello oi now).2.toNat : Int) ≤ max 0 (oi.remaining now)
  backoff : oi.immediateHelloDelay ≤ (ospf6ScheduleImmediateHello oi now).1.immediateHelloDelay

lemma maxMsec_toNat : ((oi.maxMsec now).toNat : Int) = oi.remaining now % 2 ^ 32 := by
  have hlt := oi.helloInterval.toNat_lt
  have hmsec : (1000 * oi.helloInterval.toUInt32).toNat = 1000 * oi.helloInterval.toNat := by
    rw [UInt32.toNat_mul, UInt16.toNat_toUInt32]
    change 1000 * _ % 2 ^ 32 = _
    omega
  dsimp only [HelloDelay.maxMsec, HelloDelay.remaining]
  split_ifs
  · rw [UInt32.toNat_sub, hmsec, UInt32.toNat_ofNat']
    omega
  · rw [hmsec]
    omega

lemma delay_iff : ((ospf6ScheduleImmediateHello oi now).2.toNat : Int) ≤ max 0 (oi.remaining now) ↔
    nextImmediateHelloDelay oi.immediateHelloDelay = 0 ∨ 0 ≤ oi.remaining now ∨ 2 ^ 32 ∣
    oi.remaining now := by
  have hmin : (ospf6ScheduleImmediateHello oi now).2.toNat =
      min (nextImmediateHelloDelay oi.immediateHelloDelay).toNat (oi.maxMsec now).toNat := by
    dsimp only [ospf6ScheduleImmediateHello]
    split_ifs with h <;> rw [UInt32.lt_iff_toNat_lt] at h <;> omega
  have hmax := @maxMsec_toNat oi now
  have hle : oi.remaining now < 2 ^ 32 := by
    have hlt := oi.helloInterval.toNat_lt
    unfold HelloDelay.remaining
    split_ifs <;> omega
  rw [hmin, ← UInt32.toNat_inj]
  change _ ↔ _ = 0 ∨ _
  omega

/-- The values of the back-off; the last shift drops the only bit. -/
def backoffs : List UInt32 := 0 :: (List.range 16).map fun k => 2 <<< UInt32.ofNat (2 * k)

lemma next_mem_backoffs : ∀ d ∈ backoffs, nextImmediateHelloDelay d ∈ backoffs ∧
    (d ≤ nextImmediateHelloDelay d ↔ d ≠ 2 ^ 31) ∧ (nextImmediateHelloDelay d = 0 ↔ d = 2 ^ 31) :=
  List.forall_iff_forall_mem.mp (by decide)

lemma helloDelayRun_backoffs (helloInterval : UInt16) (events : List (Nat × HelloDelayEvent)) :
    (helloDelayRun helloInterval events).2.immediateHelloDelay ∈ backoffs := by
  have hstart : (0 : UInt32) ∈ backoffs := by decide
  refine List.foldlRecOn (motive := fun (s : Nat × HelloDelay) => s.2.immediateHelloDelay ∈ backoffs) events
    helloDelayStep hstart fun s hs e _ => ?_
  rcases e with ⟨after, _ | active⟩
  · exact (next_mem_backoffs _ hs).1
  dsimp only [helloDelayStep, ospf6HelloSend]
  split_ifs
  · exact hstart
  · exact hs
  · exact hs

/-- A request is on time exactly if the last Hello is at most an interval ago modulo 2^32 milliseconds and the
back-off does not overflow. -/
theorem onTime_iff (helloInterval : UInt16) (events : List (Nat × HelloDelayEvent)) (after : Nat) :
    let s := helloDelayRun helloInterval events
    OnTime s.2 (s.1 + after) ↔ s.2.immediateHelloDelay ≠ 2 ^ 31 ∧
      (0 ≤ s.2.remaining (s.1 + after) ∨ 2 ^ 32 ∣ s.2.remaining (s.1 + after)) := by
  intro s
  obtain ⟨-, hle, hzero⟩ := next_mem_backoffs _ (helloDelayRun_backoffs helloInterval events)
  constructor
  · intro h
    have hne : s.2.immediateHelloDelay ≠ 2 ^ 31 := hle.mp h.backoff
    exact ⟨hne, (delay_iff.mp h.delay).resolve_left (mt hzero.mp hne)⟩
  · rintro ⟨hne, h⟩
    exact ⟨delay_iff.mpr (.inr h), hle.mpr hne⟩

/-- With an interval of two seconds: a Hello is put off although the last one is 2050 ms ago, and the
seventeenth request has no back-off. -/
theorem not_onTime :
    let s := helloDelayRun 2 [(1000000, .send true)]
    let t := helloDelayRun 2 ((1000000, .send true) :: List.replicate 16 (1000, .request))
    (s.2.remaining (s.1 + 2050000) = -50 ∧ (ospf6ScheduleImmediateHello s.2 (s.1 + 2050000)).2 = 2 ∧
        ¬OnTime s.2 (s.1 + 2050000)) ∧
      t.2.immediateHelloDelay = 2 ^ 31 ∧ (ospf6ScheduleImmediateHello t.2 t.1).1.immediateHelloDelay = 0 ∧
        ¬OnTime t.2 t.1 := by
  refine ⟨⟨by decide, by decide, fun h => absurd h.delay (by decide)⟩, by decide, by decide, ?_⟩
  exact fun h => absurd h.backoff (by decide)

end OspfMdr.Ospf6
