import RocketSim.Console.Simulations
import RocketSim.Console.Optimizations
import RocketSim.Console.Batches

/-!
# Serving requests

One request in, one answer out.  A request names an operation (`op`): building a value,
applying an operator, calling a method, and so on; `multi` runs several requests in order
against the same session.  A failing request is answered with its fault; inside `multi`
each item fails on its own.
-/

namespace RocketSim
namespace Console

/-- A fault or an answer, as a JSON document. -/
def answerOf (r : Outcome Json) : Json :=
  match r with
  | .ok j => j
  | .error f => encodeFault f

/-- Applies a binary operator of a request. -/
def binaryOp (op : String) (a b : Value) : Outcome Value :=
  match op with
  | "+" => Arith.plus a b
  | "-" => Arith.minus a b
  | "*" => Arith.times a b
  | "/" => Arith.quotient a b
  | "==" => (.bool ·) <$> Arith.eq a b
  | "!=" => (fun e => .bool !e) <$> Arith.eq a b
  | _ => throw Fault.typeMismatch

/-- Applies a unary operator of a request. -/
def unaryOp (op : String) (a : Value) (fmt : String) : Outcome Value :=
  match op with
  | "neg" => Arith.negate a
  | "abs" => (·.1) <$> Arith.magnitude Arith.depth a
  | "len" => Methods.length a
  | "str" => (.str ·) <$> Show.str a
  | "format" => (.str ·) <$> Show.format a fmt
  | "list" =>
    match a.items? with
    | some xs => pure (.list xs)
    | none => throw Fault.typeMismatch
  | _ => throw Fault.typeMismatch

/-- Answers a request that does not run others. -/
def answerSimple (req : Json) : Sim Json := do
  match (req.get? "op").bind Json.getStr? with
  | some "val" => do
    let v ← Sim.lift (readValue ((req.get? "value").getD .null))
    pure (.obj [("value", encode v)])
  | some "binop" => do
    let a ← Sim.lift (readValue ((req.get? "a").getD .null))
    let b ← Sim.lift (readValue ((req.get? "b").getD .null))
    let op := ((req.get? "operator").bind Json.getStr?).getD ""
    pure (.obj [("result", encode (← Sim.lift (binaryOp op a b)))])
  | some "unop" => do
    let a ← Sim.lift (readValue ((req.get? "a").getD .null))
    let op := ((req.get? "operator").bind Json.getStr?).getD ""
    let fmt := ((req.get? "fmt").bind Json.getStr?).getD ""
    pure (.obj [("result", encode (← Sim.lift (unaryOp op a fmt)))])
  | some "call" => do
    let target ← Sim.lift (readValue ((req.get? "target").getD .null))
    let method := ((req.get? "method").bind Json.getStr?).getD ""
    let args ← Sim.lift (readArgs req)
    let kwargs ← Sim.lift (readKwargs req)
    let (r, target') ← Sim.lift (Methods.call target method args kwargs)
    pure (.obj [("r", encode r), ("target", encode target')])
  | some "fn" => do
    let module := ((req.get? "module").bind Json.getStr?).getD ""
    let name := ((req.get? "name").bind Json.getStr?).getD ""
    let args ← Sim.lift (readArgs req)
    let kwargs ← Sim.lift (readKwargs req)
    pure (.obj [("result", encode (← runFunction module name args kwargs))])
  | some "simdef" => answerDefinition req
  | some "obj" => Objects.answer req
  | some "rocket" => Rockets.answer req
  | some "sim" => Simulations.answer req
  | some "windtunnel" => Simulations.answerSweep req
  | some "montecarlo" => Simulations.answerMonteCarlo req
  | some "convergence" => Simulations.answerConvergence req
  | some "optimize" => Optimizations.answer req
  | some "batch" => Batches.answer req
  | _ => Sim.fail (Fault.bare (.other "UnsupportedOperation"))

/-- Answers a request against a session; a fault becomes the answer, and the session keeps
the changes made before it. -/
def answerIn (req : Json) : StateM Session Json := do
  let r ← (answerSimple req).run
  pure (answerOf r)

/-- Answers a request, from a fresh session. -/
def answer (req : Json) : Json :=
  let run : StateM Session Json :=
    match (req.get? "op").bind Json.getStr? with
    | some "multi" =>
      match req.get? "items" with
      | some (.arr items) => do
        let answers ← items.mapM answerIn
        pure (.obj [("items", .arr answers)])
      | _ => pure (encodeFault Fault.typeMismatch)
    | _ => answerIn req
  (run.run {}).1

/-- Answers one line of input: a JSON request, answered by one line of JSON. -/
def answerLine (line : String) : String :=
  match Json.parse line with
  | some req => (answer req).render
  | none => (encodeFault Fault.badValue).render

end Console
end RocketSim
