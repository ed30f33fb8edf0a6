import DecodeBench.Proofs.Sweep.Calls
import DecodeBench.Proofs.Trial.Fit
import DecodeBench.Proofs.Trial.Tally

/-! What a sweep adds up to on an engine that has as many cells as the budget: no decode fails, and the
counters of the engine are sums over the points that are admitted. -/

namespace DecodeBench.Sweep

open Cache Model Testbed Transformer Trial

namespace Config

variable {c : Config} {p : GridPoint}

lemma parallelism_of_mem_points (hp : p ∈ c.points) : p.parallelism ∈ c.parallelism := by
  simp only [points, List.mem_flatMap, List.mem_map] at hp
  obtain ⟨_, _, _, _, n, hn, rfl⟩ := hp
  exact hn

/-! ### Sums over the points -/

lemma additive_trialCalls {f : List Call → Nat} (hnil : f [] = 0) (happ : ∀ cs ds, f (cs ++ ds) = f cs + f ds)
    (count : Nat) : f (c.trialCalls p count) = count * f (schedule c.trialOptions p 1) := by
  induction count with
  | zero =>
    rw [Nat.zero_mul]
    exact hnil
  | succ count ih => rw [trialCalls_succ, happ, ih, Nat.succ_mul, Nat.add_comm]

lemma additive_pointCalls {f : List Call → Nat} (hnil : f [] = 0) (happ : ∀ cs ds, f (cs ++ ds) = f cs + f ds)
    (ps : List GridPoint) : f (ps.flatMap c.pointCalls) =
      c.repeatCount * ((ps.filter c.admits).map fun p => f (schedule c.trialOptions p 1)).sum := by
  induction ps with
  | nil => exact hnil
  | cons p ps ih =>
    rw [List.flatMap_cons, happ, ih, List.filter_cons, pointCalls]
    split
    · rw [additive_trialCalls hnil happ, List.map_cons, List.sum_cons, Nat.mul_add]
    · rw [hnil, Nat.zero_add]

end Config

lemma toList_warmup (c : Config) : (Window.ofList 1 (warmupRequests c)).WellFormed ∧
    (Window.ofList 1 (warmupRequests c)).toList = warmupRequests c := by
  have hids : ∀ r ∈ warmupRequests c, r.sequences.length ≤ 1 := by
    intro r hr
    obtain ⟨k, -, rfl⟩ := List.mem_map.1 hr
    exact Nat.le_refl 1
  exact ⟨Window.wellFormed_ofList hids, Window.toList_ofList hids⟩

lemma length_warmupRequests (c : Config) : (warmupRequests c).length = min c.warmupTokens c.cacheBudget := by
  rw [warmupRequests, List.length_map, List.length_range]

lemma decoded_warmupCalls {c : Config} (hl : 0 < c.chunkSize) : decoded (warmupCalls c) = warmupRequests c := by
  rw [warmupCalls, scheduled, List.flatMap_singleton, Stage.calls, decoded_chunks (toList_warmup c).1 hl, (toList_warmup c).2]

lemma length_decoded_warmupCalls {c : Config} (hl : 0 < c.chunkSize) :
    (decoded (warmupCalls c)).length = min c.warmupTokens c.cacheBudget := by
  rw [decoded_warmupCalls hl, length_warmupRequests]

namespace Config

variable {c : Config}

def admitted (c : Config) : List GridPoint := c.points.filter c.admits

lemma countP_decode_calls (c : Config) : c.calls.countP Call.isDecode =
    min c.warmupTokens c.cacheBudget ⌈/⌉ c.chunkSize + c.repeatCount * (c.admitted.map fun p =>
      Measurement.prefillTokens p c.shared ⌈/⌉ c.chunkSize + p.genLength * (p.parallelism ⌈/⌉ c.chunkSize)).sum := by
  have hwarmup : (scheduled c.chunkSize [.decode (.ofList 1 (warmupRequests c))]).countP Call.isDecode = _ :=
    Trial.countP_decode_calls (toList_warmup c).1
  rw [(toList_warmup c).2, length_warmupRequests] at hwarmup
  rw [calls, List.countP_append, warmupCalls, hwarmup,
    additive_pointCalls (f := List.countP Call.isDecode) rfl fun _ _ => List.countP_append]
  simp only [countP_decode_schedule (Nat.le_refl 1), length_prompt_eq]
  rfl

end Config

structure Suits (t : Terms) (c : Config) : Prop where
  cells : c.cacheBudget ≤ t.limits.cells
  batch : c.chunkSize ≤ t.limits.batch
  chunk : 0 < c.chunkSize
  sequences : 0 < t.limits.sequences
  parallelism : ∀ n ∈ c.parallelism, n ≤ t.limits.sequences
  vocabulary : 0 < t.dimensions.vocabulary
  computes : t.Computes

section Engine

variable {t : Terms} {c : Config} {κ : Type} [Clock κ] {σ : Rig State κ} {l : Ledger} (ht : Suits t c)
include ht

lemma Suits.suits_point {p : GridPoint} (hp : p.parallelism ≤ t.limits.sequences) : t.Suits c.trialOptions p :=
  ⟨ht.sequences, hp, ht.chunk, ht.batch, ht.vocabulary⟩

lemma Suits.serves_warmup : ∀ call ∈ warmupCalls c, t.Serves call := by
  have hsuits : t.Suits c.trialOptions ⟨0, 0, 0⟩ := ht.suits_point (Nat.zero_le _)
  have hstage : t.SuitsStage c.trialOptions (.decode (.ofList 1 (warmupRequests c))) := by
    refine ⟨(toList_warmup c).1, fun r hr => ?_⟩
    rw [(toList_warmup c).2] at hr
    obtain ⟨k, -, rfl⟩ := List.mem_map.1 hr
    exact ⟨rfl, 0, ht.sequences, rfl⟩
  rw [warmupCalls, scheduled, List.flatMap_singleton]
  exact hsuits.serves_stage hstage

lemma firstFailure?_warmup (h : σ.engine.Balanced t l) : firstFailure? σ (warmupCalls c) =
    if l.entries.length + min c.warmupTokens c.cacheBudget ≤ t.limits.cells then none else some 1 := by
  rw [h.firstFailure?_eq ht.computes ht.serves_warmup, length_decoded_warmupCalls ht.chunk]

lemma firstFailure?_pointCalls {p : GridPoint} (hp : p ∈ c.points) (h : σ.engine.Balanced t l) :
    firstFailure? σ (c.pointCalls p) = none := by
  rw [Config.pointCalls]
  split
  · rename_i hv
    refine h.firstFailure?_flatten fun cs hcs σ l hσ => ?_
    obtain rfl := List.eq_of_mem_replicate hcs
    have hneed : p.need c.trialOptions.shared ≤ t.limits.cells :=
      Nat.le_trans (GridPoint.need_le_of_admitted hv) ht.cells
    have hsuits := ht.suits_point (ht.parallelism _ (Config.parallelism_of_mem_points hp))
    rw [hσ.firstFailure?_schedule ht.computes hsuits (Nat.le_refl 1), if_pos hneed]
  · rfl

lemma firstFailure?_calls (h : σ.engine.Balanced t l)
    (hroom : l.entries.length + min c.warmupTokens c.cacheBudget ≤ t.limits.cells) : firstFailure? σ c.calls = none := by
  rw [Config.calls, firstFailure?_append, firstFailure?_warmup ht h, if_pos hroom, Option.none_or, List.flatMap_def]
  refine (h.after_engine (warmupCalls c)).firstFailure?_flatten fun cs hcs σ l hσ => ?_
  obtain ⟨p, hp, rfl⟩ := List.mem_map.1 hcs
  exact firstFailure?_pointCalls ht hp hσ

lemma Suits.room : min c.warmupTokens c.cacheBudget ≤ t.limits.cells :=
  Nat.le_trans (Nat.min_le_right _ _) ht.cells

end Engine

end DecodeBench.Sweep
