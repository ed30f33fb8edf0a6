import DecodeBench.Json.Shape
import DecodeBench.Model.Dimensions
import DecodeBench.Report
import DecodeBench.Request
import DecodeBench.Sweep.Config
import DecodeBench.Transformer.Engine

/-! The records of the benchmark that can be read from JSON and written to it. -/

namespace DecodeBench.Json

open Model (Dimensions)

class Recorded (α : Type) where
  shape : Shape
  values : α → Values shape.fields
  ofValues : Values shape.fields → α

def readRecord (α : Type) [Recorded α] (ts : List Token) : Except ReadError (α × List Token) :=
  ((Recorded.shape α).read ts).map fun (vs, ts) => (Recorded.ofValues vs, ts)

def parseRecord (α : Type) [Recorded α] (bytes : List UInt8) : Except ReadError α := parse (readRecord α) bytes

def record {α : Type} [Recorded α] (a : α) : Value := (Recorded.shape α).write (Recorded.values a)

class Named (α : Type) where
  names : List String
  index : α → Fin names.length
  ofIndex : Fin names.length → α

def parseName (α : Type) [Named α] (bytes : List UInt8) : Except ReadError α :=
  (parse (Kind.readChoice (Named.names α)) bytes).map Named.ofIndex

def name {α : Type} [Named α] (a : α) : Value := (Kind.choice (Named.names α)).write (Named.index a)

instance : Named OutputFormat where
  names := ["table", "json"]
  index
    | .table => (0 : Fin 2)
    | .json => (1 : Fin 2)
  ofIndex (i : Fin 2) := if i = 0 then .table else .json

instance : Named Sweep.FailurePolicy where
  names := ["abort_sweep", "skip_grid_point"]
  index
    | .abortSweep => (0 : Fin 2)
    | .skipGridPoint => (1 : Fin 2)
  ofIndex (i : Fin 2) := if i = 0 then .abortSweep else .skipGridPoint

instance : Recorded Request where
  shape := ⟨"TokenRequest", [
    ⟨"token", .word32, []⟩,
    ⟨"pos", .size, []⟩,
    ⟨"seq_ids", .counts, []⟩,
    ⟨"logits", .flag, []⟩]⟩
  values r := (r.token, r.position, r.sequences, r.wantsLogits, ())
  ofValues | (token, position, sequences, wantsLogits, ()) => { token, position, sequences, wantsLogits }

instance : Recorded GridPoint where
  shape := ⟨"GridPoint", [
    ⟨"prompt_len", .size, []⟩,
    ⟨"gen_len", .size, []⟩,
    ⟨"parallelism", .size, []⟩]⟩
  values p := (p.promptLength, p.genLength, p.parallelism, ())
  ofValues | (promptLength, genLength, parallelism, ()) => { promptLength, genLength, parallelism }

instance : Recorded Transformer.Limits where
  shape := ⟨"EngineParams", [
    ⟨"n_ctx", .size, []⟩,
    ⟨"n_batch", .size, []⟩,
    ⟨"n_seq_max", .size, []⟩,
    ⟨"seed", .word64, []⟩]⟩
  values l := (l.cells, l.batch, l.sequences, l.seed, ())
  ofValues | (cells, batch, sequences, seed, ()) => { cells, batch, sequences, seed }

instance : Recorded Dimensions where
  shape := ⟨"ModelDims", [
    ⟨"vocab_size", .size, []⟩,
    ⟨"hidden_size", .size, []⟩,
    ⟨"num_hidden_layers", .size, ["n_layer", "num_layers"]⟩,
    ⟨"num_attention_heads", .size, ["n_head", "num_heads"]⟩]⟩
  values d := (d.vocabulary, d.hidden, d.layers, d.heads, ())
  ofValues | (vocabulary, hidden, layers, heads, ()) => { vocabulary, hidden, layers, heads }

instance : Recorded Sweep.Config where
  shape := ⟨"SweepConfig", [
    ⟨"prompt_lens", .counts, []⟩,
    ⟨"gen_lens", .counts, []⟩,
    ⟨"parallelism", .counts, []⟩,
    ⟨"repeat_count", .size, []⟩,
    ⟨"cache_budget", .size, []⟩,
    ⟨"shared_prefill", .flag, []⟩,
    ⟨"max_chunk_size", .size, []⟩,
    ⟨"warmup_tokens", .size, []⟩,
    ⟨"n_seq_max", .size, []⟩,
    ⟨"failure_policy", .choice (Named.names Sweep.FailurePolicy), []⟩]⟩
  values c := (c.promptLengths, c.genLengths, c.parallelism, c.repeatCount, c.cacheBudget, c.shared, c.chunkSize,
    c.warmupTokens, c.sequenceLimit, Named.index c.failurePolicy, ())
  ofValues
    | (promptLengths, genLengths, parallelism, repeatCount, cacheBudget, shared, chunkSize, warmupTokens,
        sequenceLimit, policy, ()) =>
      { promptLengths, genLengths, parallelism, repeatCount, cacheBudget, shared, chunkSize, warmupTokens,
        sequenceLimit, failurePolicy := Named.ofIndex policy }

end DecodeBench.Json
