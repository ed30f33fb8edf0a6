import DecodeBench.Record
import DecodeBench.Window

/-! What a benchmark asks of the world, as data: a plan is a tree of calls to a decoder and a clock,
each with a continuation for every possible answer, and of records handed out on the way. A plan is
carried out against any testbed, that is any state that can answer the calls. -/

namespace DecodeBench

inductive Call where
  | decode (w : Window)
  | clear
  | share (source target : Nat) (span : Span)
  | now
  deriving DecidableEq, Repr

abbrev Call.Answer : Call → Type
  | .decode _ => Int
  | .clear => Unit
  | .share _ _ _ => Unit
  | .now => Nat

inductive Plan (α : Type) where
  | done (a : α)
  | ask (c : Call) (next : c.Answer → Plan α)
  | emit (r : Record) (next : Plan α)

class Testbed (σ : Type) where
  answer : (c : Call) → σ → c.Answer × σ

namespace Plan

variable {α β σ : Type}

def bind : Plan α → (α → Plan β) → Plan β
  | .done a, f => f a
  | .ask c next, f => .ask c fun a => (next a).bind f
  | .emit r next, f => .emit r (next.bind f)

instance : Monad Plan where
  pure := .done
  bind := .bind

def call (c : Call) : Plan c.Answer := .ask c .done

def report (r : Record) : Plan Unit := .emit r (.done ())

def run [Testbed σ] : Plan α → σ → (before : Array Record) → α × σ × Array Record
  | .done a, s, before => (a, s, before)
  | .ask c next, s, before =>
    let (a, s) := Testbed.answer c s
    (next a).run s before
  | .emit r next, s, before => next.run s (before.push r)

def calls [Testbed σ] : Plan α → σ → List Call
  | .done _, _ => []
  | .ask c next, s => c :: (next (Testbed.answer c s).1).calls (Testbed.answer c s).2
  | .emit _ next, s => next.calls s

end Plan

end DecodeBench
