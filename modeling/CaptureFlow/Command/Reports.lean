import CaptureFlow.Capture.Metadata
import CaptureFlow.Http.Exchange
import CaptureFlow.IpFlow
import CaptureFlow.TcpFlow.Dump

/-!
# Reports on flows

The tables printed behind the packet listing. Flows stand in the order of their
keys, exchanges in the order of their targets. A time that overflows stops the
print where it would be told; what was printed before stays.
-/

namespace CaptureFlow

/-- What is printed, and what stops it, if anything does. -/
structure Printed (σ : Type) where
  /-- What is printed before the stop. -/
  text : String
  /-- What stops it. -/
  stop : Option σ
  deriving DecidableEq, Repr

namespace Printed

variable {σ : Type}

/-- A text that is printed to its end. -/
def whole (text : String) : Printed σ :=
  ⟨text, none⟩

/-- What is printed behind something else, unless that stops. -/
instance : Append (Printed σ) where
  append first second :=
    match first.stop with
    | some _ => first
    | none => ⟨first.text ++ second.text, second.stop⟩

/-- Parts that are printed one behind the other. -/
def all (parts : List (Printed σ)) : Printed σ :=
  parts.foldr (· ++ ·) (whole "")

/-- A line of which only the front is printed when the rest of it is not told. -/
def line (front : String) : (rest : Except σ String) → Printed σ
  | .ok rest => whole (front ++ rest ++ "\n")
  | .error reason => ⟨front, some reason⟩

/-- What is printed, with the stop told in other terms. -/
def mapStop {τ : Type} (f : σ → τ) (printed : Printed σ) : Printed τ :=
  ⟨printed.text, printed.stop.map f⟩

end Printed

namespace Reports

/-- Lines as they are written. -/
def block (lines : List String) : String :=
  String.join (lines.map (· ++ "\n"))

/-- The table of IP flows. -/
def ipFlows (flows : Table String IpFlow) : Printed Overflow :=
  .all (.line s!"IP flows: {Numeral.decimal flows.length}" (.ok "") ::
    flows.map fun (_, flow) => .line "  " flow.text)

/-- The table of TCP flows with their health. -/
def tcpFlows (flows : Table String TcpFlow) : Printed Overflow :=
  .all (.line s!"TCP flows: {Numeral.decimal flows.length}" (.ok "") ::
    flows.flatMap fun (_, flow) =>
      [.line "  " flow.text, .line "    health: " (.ok (Health.ofFlow flow).text)])

/-- The line of an HTTP exchange. -/
def exchangeLine (uri : String) (exchange : Http.Exchange) : Except Overflow String := do
  let method := exchange.request.method.getD "-"
  match exchange.response?, ← exchange.responseTime? with
  | some response, some elapsed =>
    .ok (s!"  {method} {uri} -> {Numeral.decimal response.status.toNat} " ++
      s!"({Numeral.signed elapsed.toInt}us, " ++
      s!"{Numeral.decimal exchange.members.length} packets)")
  | _, _ => .ok s!"  {method} {uri} -> no response"

/-- The HTTP exchanges of all flows that have any. -/
def httpExchanges (flows : Table String TcpFlow) : Printed Overflow :=
  .all (flows.flatMap fun (key, flow) =>
    let exchanges := Http.exchanges flow.members.toList
    if exchanges.isEmpty then []
    else .line key (.ok "") ::
      exchanges.map fun (uri, exchange) => .line "" (exchangeLine uri exchange))

/-- The filter expressions of both directions of all flows. -/
def filters (flows : Table String TcpFlow) : String :=
  block (flows.flatMap fun (key, flow) =>
    [key, s!"  {flow.pair.filterText}", s!"  {flow.pair.reversed.filterText}"])

/-- Why a dump cannot be written. -/
inductive DumpFault where
  /-- There is no flow with the key. -/
  | unknown (key : String) (known : List String)
  /-- A packet of the flow lacks a header. -/
  | flow (error : FlowError)
  deriving DecidableEq, Repr

/-- The wording of a dump fault. -/
def DumpFault.message : DumpFault → String
  | unknown key known =>
    let listed := ", ".intercalate known
    s!"no TCP flow '{key}' (known flows: {listed})"
  | flow error => error.message

/-- The dump of the flow with a key. -/
def dump (flows : Table String TcpFlow) (key : String) : Except DumpFault String :=
  match flows.find? key with
  | none => .error (.unknown key (flows.map Prod.fst))
  | some flow => ((Dump.lines flow.members.toList).mapError DumpFault.flow).map block

end Reports

end CaptureFlow
