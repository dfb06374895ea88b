import StyleInline.Exports.Basic
import StyleInline.Host

/-!
Providers of exports. A provider is asked for one stylesheet at a time and may remember what it was asked
before, so it takes a memory and gives a new one. Nothing between it and the inlining keeps answers:
two requests for one stylesheet are two requests.
-/
namespace StyleInline

/-- What a provider is told. -/
structure Request where
  root : Path
  host : Host
  stylesheet : Path
deriving Repr

/-- Answers requests with exports or with a fault of its own kind. -/
structure Provider (σ ε : Type) where
  answer : Request → σ → Except ε Exports × σ

namespace Provider

variable {σ ε δ : Type}

/-- A provider whose answers depend on the request alone. -/
def stateless (answer : Request → Except ε Exports) : Provider σ ε where
  answer request memory := (answer request, memory)

/-- The same answers with the faults turned into others. -/
def mapFault (f : ε → δ) (provider : Provider σ ε) : Provider σ δ where
  answer request memory :=
    let (result, memory) := provider.answer request memory
    (result.mapError f, memory)

/-- The same answers, with a list of all requests so far, refused ones included. -/
def recorded (provider : Provider σ ε) : Provider (σ × List Request) ε where
  answer request memory :=
    let (result, inner) := provider.answer request memory.1
    (result, inner, memory.2 ++ [request])

end Provider
end StyleInline
