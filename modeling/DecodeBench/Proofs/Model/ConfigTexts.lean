import DecodeBench.Model.Source
import DecodeBench.Proofs.Json.RoundTrip

/-! Dimensions from the text of a configuration. What counts is what the text says of the four
dimensions, under any of their spellings and wherever it says so. -/

namespace DecodeBench.Model

open Json (Field Kind Member Plain Plainly ReadError Recorded Shape SlotFrom Token Value objectRest text? utf8)

inductive Dimension where
  | vocabulary
  | hidden
  | layers
  | heads
  deriving DecidableEq

namespace Dimension

def all : List Dimension := [vocabulary, hidden, layers, heads]

def canonical : Dimension → String
  | vocabulary => "vocab_size"
  | hidden => "hidden_size"
  | layers => "num_hidden_layers"
  | heads => "num_attention_heads"

def others : Dimension → List String
  | vocabulary | hidden => []
  | layers => ["n_layer", "num_layers"]
  | heads => ["n_head", "num_heads"]

def spellings (q : Dimension) : List String := q.canonical :: q.others

def of (d : Dimensions) : Dimension → Nat
  | vocabulary => d.vocabulary
  | hidden => d.hidden
  | layers => d.layers
  | heads => d.heads

def field (q : Dimension) : Field := ⟨q.canonical, .size, q.others⟩

lemma fields_eq : (Recorded.shape Dimensions).fields = all.map field := rfl

lemma answersTo_field (q : Dimension) : q.field.answersTo = fun key => q.spellings.contains key := by
  funext key
  rw [spellings, List.contains_cons]
  rfl

end Dimension

/-! ### What a configuration says -/

def said (ms : List Member) (q : Dimension) : List Value :=
  (ms.filter fun m => (text? m.1).any fun key => q.spellings.contains key).map Prod.snd

def Numeric (ms : List Member) : Prop := ∀ q, ∀ v ∈ said ms q, ∃ n < Nat.pow 2 64, v = .natural n

section Said

variable {ms before after : List Member} {m : Member} {q : Dimension} {n : Nat}

lemma said_eq (ms : List Member) (q : Dimension) : said ms q = (ms.filter (q.field.means ·.1)).map Prod.snd := by
  simp only [said, Field.means, Dimension.answersTo_field]

lemma filter_eq_nil_iff : ms.filter (q.field.means ·.1) = [] ↔ said ms q = [] := by
  rw [said_eq, List.map_eq_nil_iff]

lemma length_said : (said ms q).length = ms.countP (q.field.means ·.1) := by
  rw [said_eq, List.length_map, List.countP_eq_length_filter]

lemma reads_natural (h : n < Nat.pow 2 64) : Kind.size.Reads (.natural n) n :=
  (Kind.readsIf_count "usize" (by decide) n).reads h

lemma plainly (hkeys : ∀ m ∈ ms, (text? m.1).isSome) (hnumeric : Numeric ms) (honce : ∀ q, (said ms q).length ≤ 1) :
    Plainly (Recorded.shape Dimensions).fields ms where
  keys := hkeys
  once f hf := by
    rw [Dimension.fields_eq] at hf
    obtain ⟨q, -, rfl⟩ := List.mem_map.1 hf
    rw [← length_said]
    exact honce q
  reads f hf m hm hmeans := by
    rw [Dimension.fields_eq] at hf
    obtain ⟨q, -, rfl⟩ := List.mem_map.1 hf
    have hsaid : m.2 ∈ said ms q := by
      rw [said_eq]
      exact List.mem_map_of_mem (List.mem_filter.2 ⟨hm, hmeans⟩)
    obtain ⟨n, hn, hvalue⟩ := hnumeric q _ hsaid
    refine ⟨n, ?_⟩
    rw [hvalue]
    exact reads_natural hn

end Said

/-! ### Reading it -/

section Texts

variable {ms before after : List Member} {m : Member} {q : Dimension} {text : List UInt8}

end Texts

/-! ### Texts of words -/

section Words

variable {members : List (String × Value)}

def words (members : List (String × Value)) : List Member := members.map fun (key, v) => (utf8 key, v)

variable (hkeys : ∀ key ∈ members.map Prod.fst, Plain (utf8 key))
include hkeys

end Words

/-! ### Dimensions that are accepted -/

end DecodeBench.Model
