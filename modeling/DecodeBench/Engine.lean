import DecodeBench.Plan

/-! Engines and clocks as state machines, and the testbed that one of each makes. -/

namespace DecodeBench

class Engine (ε : Type) where
  /-- The status is zero on success. -/
  decode : Window → ε → Int × ε
  clear : ε → ε
  share : (source target : Nat) → Span → ε → ε

class Clock (κ : Type) where
  now : κ → Nat × κ

structure Rig (ε κ : Type) where
  engine : ε
  clock : κ

instance {ε κ : Type} [Engine ε] [Clock κ] : Testbed (Rig ε κ) where
  answer
    | .decode w, s => let (status, engine) := Engine.decode w s.engine; (status, { s with engine })
    | .clear, s => ((), { s with engine := Engine.clear s.engine })
    | .share source target span, s => ((), { s with engine := Engine.share source target span s.engine })
    | .now, s => let (time, clock) := Clock.now s.clock; (time, { s with clock })

structure NoClock where

instance : Clock NoClock := ⟨fun c => (0, c)⟩

end DecodeBench
