import DecodeBench.CommandLine.Run
import DecodeBench.Proofs.CommandLine.Arguments
import DecodeBench.Proofs.Report.Lines
import DecodeBench.Proofs.Sweep.Calls

/-! What a run writes: its records are about integers of the machine, so each has a line of its own from
which it can be told, behind the header if there is one. -/

namespace DecodeBench.CommandLine

open Report (Fits ReadsBack lineBytes lineEnd)
open Sweep (Config headline)

variable {s : Settings}

lemma requiredSlots_lt (p : GridPoint) (shared : Bool) : p.requiredSlots shared < wordLimit := by
  have hle : ∀ n, min n unboundedNeed < wordLimit := fun n => Nat.lt_of_le_of_lt (Nat.min_le_right ..) (by decide)
  rw [GridPoint.requiredSlots]
  split
  · exact hle _
  · exact hle _

lemma Settings.Gridded.pointFits (h : s.Gridded) {p : GridPoint} (hp : p ∈ s.config.points) : Report.PointFits p := by
  simp only [Config.points, List.mem_flatMap, List.mem_map] at hp
  obtain ⟨promptLength, hprompt, genLength, hgen, parallelism, hparallelism, rfl⟩ := hp
  exact ⟨h.promptLengths.lt _ hprompt, h.genLengths.lt _ hgen, h.parallelism.lt _ hparallelism⟩

lemma Settings.Gridded.fits (h : s.Gridded) {r : Record} (hr : headline r ∈ s.config.points.flatMap s.config.headlines) :
    Fits r := by
  obtain ⟨p, hp, hr⟩ := List.mem_flatMap.1 hr
  have hpoint := h.pointFits hp
  have hslots := requiredSlots_lt p s.config.shared
  rw [Config.headlines] at hr
  split at hr
  · obtain ⟨k, hk, hr⟩ := List.mem_map.1 hr
    have hrepeat : k < wordLimit := Nat.lt_trans (List.mem_range.1 hk) h.repeatCount
    cases r with
    | trial m =>
      obtain ⟨rfl, hslots', rfl⟩ : p = m.point ∧ _ = m.requiredSlots ∧ k = m.repeatIndex := by simpa [headline] using hr
      exact ⟨hpoint, hrepeat, hslots' ▸ hslots⟩
    | skipped => simp [headline] at hr
  · cases r with
    | trial => simp [headline] at hr
    | skipped q =>
      obtain ⟨rfl, hslots', hreason⟩ : q.point = p ∧ q.requiredSlots = _ ∧ q.reason = .budgetExceeded := by
        simpa [headline] using hr
      refine ⟨hpoint, hslots' ▸ hslots, ?_⟩
      rw [hreason]
      trivial

def headerLines : OutputFormat → List (List UInt8)
  | .table => [Json.utf8 Report.header]
  | .json => []

lemma headerBytes_eq (format : OutputFormat) :
    Report.headerBytes format = (headerLines format).flatMap fun line => line ++ [lineEnd] := by
  cases format with
  | table => exact (List.append_nil _).symm
  | json => rfl

structure Written (format : OutputFormat) (records : List Record) (lines : List (List UInt8)) (output : List UInt8) :
    Prop where
  readsBack : List.Forall₂ (ReadsBack format) records lines
  framed : ∀ line ∈ headerLines format ++ lines, 0x0a ∉ line
  output : output = (headerLines format ++ lines).flatMap fun line => line ++ [0x0a]

lemma written {format : OutputFormat} {records : List Record} (hfits : ∀ r ∈ records, Fits r) :
    Written format records (records.map (lineBytes format))
      (Report.headerBytes format ++ records.flatMap (Report.recordBytes format)) where
  readsBack := by
    rw [List.forall₂_map_right_iff, List.forall₂_same]
    exact fun r hr => Report.lineBytes_readsBack (hfits r hr)
  framed := by
    rw [List.forall_mem_append, List.forall_mem_map]
    refine ⟨?_, fun r hr => (Report.lineBytes_readsBack (hfits r hr)).framed⟩
    cases format with
    | table => exact List.forall_mem_singleton.2 Report.header_row.framed
    | json => exact nofun
  output := by
    rw [headerBytes_eq, List.flatMap_append, List.flatMap_map]
    exact congrArg _ (List.flatMap_congr fun r _ => Report.recordBytes_eq format r)

end DecodeBench.CommandLine
