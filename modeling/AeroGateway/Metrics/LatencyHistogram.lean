import Mathlib.Algebra.Order.Floor
import Mathlib.Data.Rat.Floor

/-!
# The latency histogram

`LatencyHistogram::record` turns a cycle count into microseconds and counts it in one of 256
buckets: tenths of a microsecond below 1 µs, whole microseconds below 100 µs, and tens of
microseconds from there, the last bucket taking everything beyond. `print_stats` sums the
bucket counts in one pass and reports, for P50 and P99, the first bucket at which the sum
reaches `total * 0.5` or `total * 0.99` truncated, printed through `bucket_to_string`.

The bucket reported is the bucket of the latency ranked at the truncated threshold, and the
threshold of a single sample is 0, which bucket 0 already reaches. The labels of the buckets
from 100 µs up name a range about 100 µs above the bucket's own: a latency from 100 µs to
1550 µs is never inside the range its own bucket prints.

The microsecond value and the thresholds are computed exactly: the roundings of the `double`
arithmetic are not modelled, and the thresholds agree with the `double` products below 2^46
samples. The counters are taken not to wrap, the relaxed atomics as sequential (`print_stats`
runs after the recordings), and the `int` cast of a latency past 2^31 tens of microseconds as
reaching the last bucket.
-/

namespace AeroGateway.Metrics

/-- `LatencyHistogram::NUM_BUCKETS`. -/
def NUM_BUCKETS : Nat := 256

/-- `us`: `(double)cycles * 1000000.0 / tsc_hz`, where `tsc_hz` is `rte_get_timer_hz()` at the
first call. -/
def usOf (tscHz : Nat) (cycles : UInt64) : ℚ := cycles.toNat * 1000000 / tscHz

/-- The bucket `record` counts a latency of `us` microseconds in. The casts to `int` truncate,
and below zero the clamp to bucket 0 gives what the floor on ℕ gives. -/
def bucketIndex (us : ℚ) : Nat :=
  let idx := if us < 1 then ⌊us * 10⌋₊ else if us < 100 then 10 + ⌊us⌋₊ else 110 + ⌊us / 10⌋₊
  if idx ≥ NUM_BUCKETS then NUM_BUCKETS - 1 else idx

/-- `buckets_` and `total_count_`. -/
structure LatencyHistogram where
  buckets : Nat → Nat
  totalCount : Nat

/-- `bucket_to_string`: `%.1f us` of `idx / 10.0`, `%d us` of `idx - 10`, or `> %d us` of
`(idx - 110) * 10 + 100`. -/
def bucketToString (idx : Int) : String :=
  if idx < 10 then
    (if idx < 0 then "-" else "") ++ toString (idx.natAbs / 10) ++ "." ++
      toString (idx.natAbs % 10) ++ " us"
  else if idx < 110 then toString (idx - 10) ++ " us"
  else "> " ++ toString ((idx - 110) * 10 + 100) ++ " us"

/-- What `print_stats` prints: the total and the buckets it reports for P50 and P99. -/
structure Stats where
  total : Nat
  p50Bucket : Int
  p99Bucket : Int
  deriving DecidableEq, Repr

/-- The lines `print_stats` prints. -/
def Stats.lines (s : Stats) : List String :=
  ["Latency Stats (Total Samples: " ++ toString s.total ++ ")",
    "  P50 ~ " ++ bucketToString s.p50Bucket, "  P99 ~ " ++ bucketToString s.p99Bucket]

example : (⟨2, 15, 125⟩ : Stats).lines =
    ["Latency Stats (Total Samples: 2)", "  P50 ~ 5 us", "  P99 ~ > 250 us"] := by decide

/-- `if (p == -1 && current_count >= threshold) p = i`, for either percentile. -/
def firstAt (threshold currentCount : Nat) (p : Int) (i : Nat) : Int :=
  if p = -1 ∧ currentCount ≥ threshold then i else p

/-- The variables of the loop of `print_stats`. -/
structure Walk where
  currentCount : Nat
  p50Bucket : Int
  p99Bucket : Int

namespace LatencyHistogram

/-- The constructor: every counter zero. -/
def init : LatencyHistogram := ⟨fun _ => 0, 0⟩

/-- `record(cycles)`. -/
def record (tscHz : Nat) (h : LatencyHistogram) (cycles : UInt64) : LatencyHistogram :=
  let idx := bucketIndex (usOf tscHz cycles)
  ⟨Function.update h.buckets idx (h.buckets idx + 1), h.totalCount + 1⟩

/-- The histogram after `record` of each cycle count in turn. -/
def recordAll (tscHz : Nat) (cs : List UInt64) : LatencyHistogram := cs.foldl (record tscHz) init

variable (h : LatencyHistogram)

/-- One turn of the loop of `print_stats`, at bucket `i`. -/
def walkStep (p50Threshold p99Threshold : Nat) (w : Walk) (i : Nat) : Walk :=
  let currentCount := w.currentCount + h.buckets i
  ⟨currentCount, firstAt p50Threshold currentCount w.p50Bucket i,
    firstAt p99Threshold currentCount w.p99Bucket i⟩

/-- The loop of `print_stats` over the first `k` buckets. -/
def walk (p50Threshold p99Threshold k : Nat) : Walk :=
  (List.range k).foldl (h.walkStep p50Threshold p99Threshold) ⟨0, -1, -1⟩

/-- `print_stats`: nothing for an empty histogram, else the buckets at which the running count
reaches `total * 0.5` and `total * 0.99`, truncated. -/
def printStats : Option Stats :=
  if h.totalCount = 0 then none
  else
    let w := h.walk (h.totalCount / 2) (99 * h.totalCount / 100) NUM_BUCKETS
    some ⟨h.totalCount, w.p50Bucket, w.p99Bucket⟩

/-- The counts of the first `k` buckets together. -/
def cum : Nat → Nat
  | 0 => 0
  | k + 1 => cum k + h.buckets k

end LatencyHistogram

/-! ## What the printed percentiles name -/

/-- `x` is a `k`-th smallest of `ls`: fewer than `k` lie below it and at least `k` at or
below it. -/
def RankedAt (ls : List ℚ) (k : Nat) (x : ℚ) : Prop :=
  ls.countP (· < x) < k ∧ k ≤ ls.countP (· ≤ x)

instance (ls : List ℚ) (k : Nat) (x : ℚ) : Decidable (RankedAt ls k x) :=
  inferInstanceAs (Decidable (_ ∧ _))

/-- The latencies the label of bucket `idx` names: from `x.y` µs for a tenth of a microsecond,
from `k` µs for a microsecond, and everything above `N` µs for `> N us`. -/
def labelRange (idx : Int) (us : ℚ) : Prop :=
  if idx < 10 then (idx : ℚ) / 10 ≤ us ∧ us < (idx + 1) / 10
  else if idx < 110 then ((idx - 10 : Int) : ℚ) ≤ us ∧ us < ((idx - 9 : Int) : ℚ)
  else (((idx - 110) * 10 + 100 : Int) : ℚ) < us

/-! ## Buckets -/

theorem bucketIndex_lt (us : ℚ) : bucketIndex us < NUM_BUCKETS := by
  simp only [bucketIndex, NUM_BUCKETS]
  split_ifs <;> omega

theorem floor_mul_ten_lt {us : ℚ} (h : us < 1) : ⌊us * 10⌋₊ < 10 :=
  (Nat.floor_lt' (by norm_num)).mpr (by push_cast; linarith only [h])

theorem floor_lt_100 {us : ℚ} (h : us < 100) : ⌊us⌋₊ < 100 :=
  (Nat.floor_lt' (by norm_num)).mpr (by exact_mod_cast h)

theorem bucketIndex_of_lt_one {us : ℚ} (h : us < 1) : bucketIndex us = ⌊us * 10⌋₊ := by
  have := floor_mul_ten_lt h
  simp only [bucketIndex, NUM_BUCKETS, if_pos h]
  exact if_neg (by omega)

theorem bucketIndex_of_lt_100 {us : ℚ} (h1 : 1 ≤ us) (h : us < 100) :
    bucketIndex us = 10 + ⌊us⌋₊ := by
  have := floor_lt_100 h
  simp only [bucketIndex, NUM_BUCKETS, if_neg (not_lt.mpr h1), if_pos h]
  exact if_neg (by omega)

theorem bucketIndex_of_ge_100 {us : ℚ} (h : 100 ≤ us) :
    bucketIndex us = min (110 + ⌊us / 10⌋₊) 255 := by
  have h1 : ¬ us < 1 := not_lt.mpr (le_trans (by norm_num) h)
  simp only [bucketIndex, NUM_BUCKETS, if_neg h1, if_neg (not_lt.mpr h)]
  split_ifs <;> omega

/-- Below 100 µs the bucket is one of the first 110. -/
theorem bucketIndex_lt_110 {us : ℚ} (h : us < 100) : bucketIndex us < 110 := by
  rcases lt_or_le us 1 with h1 | h1
  · rw [bucketIndex_of_lt_one h1]; have := floor_mul_ten_lt h1; omega
  · rw [bucketIndex_of_lt_100 h1 h]; have := floor_lt_100 h; omega

/-- The bucket of a latency never falls as the latency grows. -/
theorem bucketIndex_mono {a b : ℚ} (hab : a ≤ b) : bucketIndex a ≤ bucketIndex b := by
  rcases lt_or_le b 100 with hb | hb
  · rcases lt_or_le b 1 with hb1 | hb1
    · rw [bucketIndex_of_lt_one (hab.trans_lt hb1), bucketIndex_of_lt_one hb1]
      exact Nat.floor_mono (by linarith only [hab])
    rw [bucketIndex_of_lt_100 hb1 hb]
    rcases lt_or_le a 1 with ha1 | ha1
    · rw [bucketIndex_of_lt_one ha1]; have := floor_mul_ten_lt ha1; omega
    · rw [bucketIndex_of_lt_100 ha1 (hab.trans_lt hb)]; have := Nat.floor_mono hab; omega
  rw [bucketIndex_of_ge_100 hb]
  rcases lt_or_le a 100 with ha | ha
  · have := bucketIndex_lt_110 ha; omega
  · rw [bucketIndex_of_ge_100 ha]
    have : ⌊a / 10⌋₊ ≤ ⌊b / 10⌋₊ := Nat.floor_mono (by linarith only [hab])
    omega

/-- The label of a latency's own bucket names a range containing it exactly when the latency
is below 100 µs or above 1550 µs. -/
theorem labelRange_bucketIndex_iff {x : ℚ} (hx : 0 ≤ x) :
    labelRange (bucketIndex x) x ↔ x < 100 ∨ 1550 < x := by
  rcases lt_or_le x 1 with h1 | h1
  · have hle := Nat.floor_le (show 0 ≤ x * 10 by positivity)
    have hgt := Nat.lt_floor_add_one (x * 10)
    rw [bucketIndex_of_lt_one h1, labelRange, if_pos (by exact_mod_cast floor_mul_ten_lt h1)]
    push_cast
    exact iff_of_true ⟨by linarith only [hle], by linarith only [hgt]⟩
      (.inl (by linarith only [h1]))
  rcases lt_or_le x 100 with h100 | h100
  · have hle := Nat.floor_le hx
    have hgt := Nat.lt_floor_add_one x
    have hlt := floor_lt_100 h100
    rw [bucketIndex_of_lt_100 h1 h100, labelRange, if_neg (by omega), if_pos (by omega)]
    push_cast
    exact iff_of_true ⟨by linarith only [hle], by linarith only [hgt]⟩ (.inl h100)
  · have hgt := Nat.lt_floor_add_one (x / 10)
    rw [bucketIndex_of_ge_100 h100, labelRange]
    rcases lt_or_le (110 + ⌊x / 10⌋₊) 255 with hc | hc
    · have h145 : (⌊x / 10⌋₊ : ℚ) < 145 := by exact_mod_cast (show ⌊x / 10⌋₊ < 145 by omega)
      rw [min_eq_left hc.le, if_neg (by omega), if_neg (by omega)]
      push_cast
      refine iff_of_false (by linarith only [hgt]) ?_
      rintro (h | h)
      exacts [not_lt.mpr h100 h, by linarith only [h, hgt, h145]]
    · rw [min_eq_right hc, if_neg (by norm_num), if_neg (by norm_num)]
      norm_num
      exact fun h => (not_lt.mpr h100 h).elim

/-- Splitting off the buckets equal to `k` from those below `k + 1`. -/
theorem countP_lt_succ {α : Type} (f : α → Nat) (k : Nat) : ∀ l : List α,
    l.countP (fun u => f u < k + 1) = l.countP (fun u => f u < k) + l.countP (fun u => f u = k)
  | [] => rfl
  | u :: l => by
    simp only [List.countP_cons, countP_lt_succ f k l, decide_eq_true_eq]
    split_ifs <;> omega

/-! ## Recording -/

namespace LatencyHistogram

variable (tscHz : Nat)

theorem totalCount_foldl_record : ∀ (cs : List UInt64) (h : LatencyHistogram),
    (cs.foldl (record tscHz) h).totalCount = h.totalCount + cs.length
  | [], _ => rfl
  | c :: cs, h => by
    rw [List.foldl_cons, totalCount_foldl_record cs, List.length_cons]
    show h.totalCount + 1 + cs.length = _
    omega

/-- Each bucket counts the recorded latencies that fall in it. -/
theorem buckets_foldl_record (i : Nat) : ∀ (cs : List UInt64) (h : LatencyHistogram),
    (cs.foldl (record tscHz) h).buckets i =
      h.buckets i + (cs.map (usOf tscHz)).countP (fun u => bucketIndex u = i)
  | [], _ => rfl
  | c :: cs, h => by
    rw [List.foldl_cons, buckets_foldl_record i cs, List.map_cons, List.countP_cons]
    simp only [record, Function.update_apply, decide_eq_true_eq]
    by_cases hi : bucketIndex (usOf tscHz c) = i
    · subst hi; simp only [if_true]; omega
    · simp only [if_neg hi, if_neg (Ne.symm hi)]; omega

@[simp] theorem totalCount_recordAll (cs : List UInt64) :
    (recordAll tscHz cs).totalCount = cs.length := by
  rw [recordAll, totalCount_foldl_record]; exact Nat.zero_add _

theorem buckets_recordAll (cs : List UInt64) (i : Nat) :
    (recordAll tscHz cs).buckets i = (cs.map (usOf tscHz)).countP (fun u => bucketIndex u = i) := by
  rw [recordAll, buckets_foldl_record]; exact Nat.zero_add _

/-- The first `k` buckets together count the recorded latencies whose bucket is below `k`. -/
theorem cum_recordAll (cs : List UInt64) : ∀ k,
    (recordAll tscHz cs).cum k = (cs.map (usOf tscHz)).countP (fun u => bucketIndex u < k)
  | 0 => by simp [cum]
  | k + 1 => by rw [cum, cum_recordAll cs k, buckets_recordAll, countP_lt_succ]

/-! ## The walk of `print_stats` -/

variable (h : LatencyHistogram) (t50 t99 : Nat)

theorem cum_mono : Monotone h.cum := monotone_nat_of_le_succ fun _ => Nat.le_add_right _ _

theorem walk_succ (k : Nat) :
    h.walk t50 t99 (k + 1) = h.walkStep t50 t99 (h.walk t50 t99 k) k := by
  rw [walk, List.range_succ, List.foldl_append]; rfl

theorem currentCount_walk : ∀ k, (h.walk t50 t99 k).currentCount = h.cum k
  | 0 => rfl
  | k + 1 => by
    rw [walk_succ]
    show (h.walk t50 t99 k).currentCount + h.buckets k = h.cum k + h.buckets k
    rw [currentCount_walk k]

/-- The loop's answer for one percentile, whose variable `sel` reads and `firstAt` updates with
threshold `t`: if the running count first reaches `t` at bucket `j`, the variable is `-1`
through bucket `j` and `j` after. -/
theorem walk_first (sel : Walk → Int) (t : Nat) (h0 : sel ⟨0, -1, -1⟩ = -1)
    (hstep : ∀ w i,
      sel (h.walkStep t50 t99 w i) = firstAt t (w.currentCount + h.buckets i) (sel w) i)
    {j : Nat} (hbefore : ∀ j' < j, h.cum (j' + 1) < t) (hreach : t ≤ h.cum (j + 1)) :
    ∀ k, sel (h.walk t50 t99 k) = if k ≤ j then -1 else (j : Int)
  | 0 => by rw [if_pos (Nat.zero_le j)]; exact h0
  | k + 1 => by
    rw [walk_succ, hstep, currentCount_walk, walk_first sel t h0 hstep hbefore hreach k]
    show firstAt t (h.cum (k + 1)) _ k = _
    rcases lt_trichotomy k j with hkj | rfl | hkj
    · have := hbefore k hkj
      rw [if_pos hkj.le, if_pos (show k + 1 ≤ j by omega), firstAt, if_neg (by omega)]
    · rw [if_pos le_rfl, if_neg (by omega), firstAt, if_pos ⟨rfl, hreach⟩]
    · rw [if_neg (by omega), if_neg (by omega), firstAt, if_neg (by omega)]

/-! ## What `print_stats` reports -/

theorem printStats_of_ne_zero (hn : h.totalCount ≠ 0) :
    h.printStats = some ⟨h.totalCount,
      (h.walk (h.totalCount / 2) (99 * h.totalCount / 100) NUM_BUCKETS).p50Bucket,
      (h.walk (h.totalCount / 2) (99 * h.totalCount / 100) NUM_BUCKETS).p99Bucket⟩ := by
  rw [printStats, if_neg hn]

/-- Over all the buckets, the loop reports for a percentile the bucket at which the running
count first reaches its threshold. -/
theorem walk_reports (sel : Walk → Int) (t : Nat) (h0 : sel ⟨0, -1, -1⟩ = -1)
    (hstep : ∀ w i,
      sel (h.walkStep t50 t99 w i) = firstAt t (w.currentCount + h.buckets i) (sel w) i)
    {j : Nat} (hj : j < NUM_BUCKETS) (hbefore : ∀ j' < j, h.cum (j' + 1) < t)
    (hreach : t ≤ h.cum (j + 1)) : sel (h.walk t50 t99 NUM_BUCKETS) = j := by
  rw [walk_first h t50 t99 sel t h0 hstep hbefore hreach, if_neg (not_le.mpr hj)]

/-- The running count first reaches a rank at the bucket of a latency of that rank. -/
theorem cum_recordAll_of_ranked {cs : List UInt64} {t : Nat} {x : ℚ}
    (hx : RankedAt (cs.map (usOf tscHz)) t x) :
    (∀ j < bucketIndex x, (recordAll tscHz cs).cum (j + 1) < t) ∧
      t ≤ (recordAll tscHz cs).cum (bucketIndex x + 1) := by
  refine ⟨fun j hj => ?_, ?_⟩
  · rw [cum_recordAll]
    refine lt_of_le_of_lt (List.countP_mono_left fun u _ hu => ?_) hx.1
    simp only [decide_eq_true_eq] at hu ⊢
    exact lt_of_not_le fun hxu => by have := bucketIndex_mono hxu; omega
  · rw [cum_recordAll]
    refine hx.2.trans (List.countP_mono_left fun u _ hu => ?_)
    simp only [decide_eq_true_eq] at hu ⊢
    exact Nat.lt_succ_of_le (bucketIndex_mono hu)

variable {tscHz} {cs : List UInt64} {x : ℚ}

theorem p50Bucket_walk_of_ranked (hx : RankedAt (cs.map (usOf tscHz)) (cs.length / 2) x) :
    ((recordAll tscHz cs).walk (cs.length / 2) (99 * cs.length / 100) NUM_BUCKETS).p50Bucket =
      bucketIndex x :=
  have ⟨hbefore, hreach⟩ := cum_recordAll_of_ranked tscHz hx
  walk_reports _ _ _ Walk.p50Bucket _ rfl (fun _ _ => rfl) (bucketIndex_lt x) hbefore hreach

theorem p99Bucket_walk_of_ranked (hx : RankedAt (cs.map (usOf tscHz)) (99 * cs.length / 100) x) :
    ((recordAll tscHz cs).walk (cs.length / 2) (99 * cs.length / 100) NUM_BUCKETS).p99Bucket =
      bucketIndex x :=
  have ⟨hbefore, hreach⟩ := cum_recordAll_of_ranked tscHz hx
  walk_reports _ _ _ Walk.p99Bucket _ rfl (fun _ _ => rfl) (bucketIndex_lt x) hbefore hreach

/-- A rank no larger than the count is reached only by recording something. -/
theorem totalCount_ne_zero_of_ranked {t : Nat} (hx : RankedAt (cs.map (usOf tscHz)) t x)
    (ht : t ≤ cs.length) : (recordAll tscHz cs).totalCount ≠ 0 := by
  rw [totalCount_recordAll]; have := hx.1; omega

variable (tscHz cs x)

/-- For each percentile, `print_stats` reports the bucket of the latency ranked at
`total * 0.5` or `total * 0.99` truncated. -/
theorem printStats_reports_ranked_bucket :
    (RankedAt (cs.map (usOf tscHz)) (cs.length / 2) x →
      (recordAll tscHz cs).printStats.map Stats.p50Bucket = some (bucketIndex x : Int)) ∧
    (RankedAt (cs.map (usOf tscHz)) (99 * cs.length / 100) x →
      (recordAll tscHz cs).printStats.map Stats.p99Bucket = some (bucketIndex x : Int)) := by
  constructor
  · intro hx
    rw [printStats_of_ne_zero _ (totalCount_ne_zero_of_ranked hx (Nat.div_le_self _ _)),
      Option.map_some', totalCount_recordAll, p50Bucket_walk_of_ranked hx]
  · intro hx
    rw [printStats_of_ne_zero _ (totalCount_ne_zero_of_ranked hx (by omega)), Option.map_some',
      totalCount_recordAll, p99Bucket_walk_of_ranked hx]

/-- With one sample both thresholds are 0, which bucket 0 reaches whatever was recorded. -/
theorem printStats_single (c : UInt64) : (recordAll tscHz [c]).printStats = some ⟨1, 0, 0⟩ := by
  have hfirst : ∀ sel : Walk → Int, sel ⟨0, -1, -1⟩ = -1 →
      (∀ w i, sel ((recordAll tscHz [c]).walkStep 0 0 w i) =
        firstAt 0 (w.currentCount + (recordAll tscHz [c]).buckets i) (sel w) i) →
      sel ((recordAll tscHz [c]).walk 0 0 NUM_BUCKETS) = 0 := fun sel h0 hstep =>
    walk_reports _ _ _ sel 0 h0 hstep (j := 0) (by decide)
      (fun _ h => absurd h (Nat.not_lt_zero _)) (Nat.zero_le _)
  rw [printStats_of_ne_zero _ (by simp), totalCount_recordAll]
  simp only [List.length_singleton, Nat.reduceDiv, Nat.reduceMul]
  rw [hfirst Walk.p50Bucket rfl (fun _ _ => rfl), hfirst Walk.p99Bucket rfl (fun _ _ => rfl)]

theorem usOf_nonneg (c : UInt64) : 0 ≤ usOf tscHz c := by
  unfold usOf; positivity

/-- A latency ranked among recorded ones is at least one of them, so not negative. -/
theorem nonneg_of_ranked {t : Nat} (hx : RankedAt (cs.map (usOf tscHz)) t x) : 0 ≤ x := by
  have hpos : 0 < (cs.map (usOf tscHz)).countP (· ≤ x) := by have := hx.1; have := hx.2; omega
  obtain ⟨u, hu, hux⟩ := List.countP_pos_iff.mp hpos
  obtain ⟨c, -, rfl⟩ := List.mem_map.mp hu
  exact (usOf_nonneg tscHz c).trans (by simpa using hux)

/-- Where the labels are right: each reported label contains the latency ranked at the
truncated threshold, when that latency is below 100 µs or above 1550 µs. -/
theorem reported_label_contains_ranked (hfast : x < 100 ∨ 1550 < x) :
    (RankedAt (cs.map (usOf tscHz)) (cs.length / 2) x →
      ∃ s, (recordAll tscHz cs).printStats = some s ∧ labelRange s.p50Bucket x) ∧
    (RankedAt (cs.map (usOf tscHz)) (99 * cs.length / 100) x →
      ∃ s, (recordAll tscHz cs).printStats = some s ∧ labelRange s.p99Bucket x) := by
  have hlabel := fun {t} (hx : RankedAt (cs.map (usOf tscHz)) t x) =>
    (labelRange_bucketIndex_iff (nonneg_of_ranked tscHz cs x hx)).mpr hfast
  refine ⟨fun hx => ?_, fun hx => ?_⟩
  · obtain ⟨s, hs, h50⟩ :=
      Option.map_eq_some'.mp ((printStats_reports_ranked_bucket tscHz cs x).1 hx)
    exact ⟨s, hs, h50 ▸ hlabel hx⟩
  · obtain ⟨s, hs, h99⟩ :=
      Option.map_eq_some'.mp ((printStats_reports_ranked_bucket tscHz cs x).2 hx)
    exact ⟨s, hs, h99 ▸ hlabel hx⟩

end LatencyHistogram

/-! ## Samples whose percentiles print a range without them -/

theorem usOf_10000 : usOf 2000000000 10000 = 5 := by
  rw [usOf, show (10000 : UInt64).toNat = 10000 from rfl]; norm_num

theorem usOf_300000 : usOf 2000000000 300000 = 150 := by
  rw [usOf, show (300000 : UInt64).toNat = 300000 from rfl]; norm_num

/-- With a 2 GHz counter: one sample of 5 µs, the first smallest for either percentile, prints
`0.0 us` for both; two samples of 150 µs, the first and second smallest, print `> 250 us`. -/
theorem percentile_label_misses_ranked_latency :
    usOf 2000000000 10000 = 5 ∧ RankedAt [5] 1 5 ∧
      (LatencyHistogram.recordAll 2000000000 [10000]).printStats = some ⟨1, 0, 0⟩ ∧
      bucketToString 0 = "0.0 us" ∧ ¬ labelRange 0 5 ∧
    usOf 2000000000 300000 = 150 ∧ RankedAt [150, 150] 1 150 ∧ RankedAt [150, 150] 2 150 ∧
      (LatencyHistogram.recordAll 2000000000 [300000, 300000]).printStats = some ⟨2, 125, 125⟩ ∧
      bucketToString 125 = "> 250 us" ∧ ¬ labelRange 125 150 := by
  have hls : ([300000, 300000] : List UInt64).map (usOf 2000000000) = [150, 150] := by
    simp only [List.map_cons, List.map_nil, usOf_300000]
  have hranked : RankedAt (([300000, 300000] : List UInt64).map (usOf 2000000000))
      (([300000, 300000] : List UInt64).length / 2) 150 := by rw [hls]; decide
  have hranked99 : RankedAt (([300000, 300000] : List UInt64).map (usOf 2000000000))
      (99 * ([300000, 300000] : List UInt64).length / 100) 150 := by rw [hls]; decide
  have hidx : bucketIndex 150 = 125 := by
    rw [bucketIndex_of_ge_100 (by norm_num)]; norm_num [Nat.floor_div_nat]
  refine ⟨usOf_10000, by decide, LatencyHistogram.printStats_single _ _, by decide,
    by norm_num [labelRange], usOf_300000, by decide, by decide, ?_, by decide,
    by norm_num [labelRange]⟩
  rw [LatencyHistogram.printStats_of_ne_zero _ (by simp), LatencyHistogram.totalCount_recordAll,
    LatencyHistogram.p50Bucket_walk_of_ranked hranked,
    LatencyHistogram.p99Bucket_walk_of_ranked hranked99, hidx]
  rfl

end AeroGateway.Metrics
