import HermesAtrust.L3.Packet
import HermesAtrust.Text.Decimal

/-!
# The conntrack key determines the flow

The key of a flow is the text `4:protocol:source:port-target:port`.  Numbers
print as digits and addresses as digits and dots, so no field contains the
separator that ends it, and the fields can be cut off one after the other.
-/

namespace HermesAtrust.L3

open HermesAtrust.Framing HermesAtrust.Protocol HermesAtrust.Text

private theorem notMem_addrText {separator : Char}
    (plain : separator.isDigit = false) (notDot : separator ≠ '.')
    (addr : Ipv4Addr) : separator ∉ addr.text.toList := by
  simp only [Ipv4Addr.text, String.toList_append, toList_toString,
    List.mem_append, not_or]
  have dot : separator ∉ (".").toList := by simpa using notDot
  have digits := notMem_decimalText plain
  exact ⟨⟨⟨⟨⟨⟨digits _, dot⟩, digits _⟩, dot⟩, digits _⟩, dot⟩, digits _⟩

/-- Distinct addresses have distinct dotted forms. -/
theorem Ipv4Addr.text_injective {addr addr' : Ipv4Addr}
    (same : addr.text.toList = addr'.text.toList) : addr = addr' := by
  have digits := notMem_decimalText (show ('.').isDigit = false by decide)
  simp only [Ipv4Addr.text, String.toList_append, toList_toString,
    List.append_assoc, show (".").toList = ['.'] from rfl, List.cons_append,
    List.nil_append] at same
  obtain ⟨first, same⟩ := field_append_inj (digits _) (digits _) same
  obtain ⟨second, same⟩ := field_append_inj (digits _) (digits _) same
  obtain ⟨third, fourth⟩ := field_append_inj (digits _) (digits _) same
  rw [Ipv4Addr.mk.injEq]
  exact ⟨UInt8.toNat_inj.mp (decimalText_injective first),
    UInt8.toNat_inj.mp (decimalText_injective second),
    UInt8.toNat_inj.mp (decimalText_injective third),
    UInt8.toNat_inj.mp (decimalText_injective fourth)⟩

/-- Flows with the same conntrack key are the same flow. -/
theorem Ipv4Flow.eq_of_flowKey_eq {flow flow' : Ipv4Flow}
    (same : flow.flowKey = flow'.flowKey) : flow = flow' := by
  have colonPlain : (':').isDigit = false := by decide
  have dashPlain : ('-').isDigit = false := by decide
  have notDot : ':' ≠ '.' := by decide
  have texts := congrArg (fun key => key.text.toList) same
  simp only [Ipv4Flow.flowKey, FlowKey.new, String.toList_append,
    toList_toString, List.append_assoc, show (":").toList = [':'] from rfl,
    show ("-").toList = ['-'] from rfl, List.cons_append, List.nil_append,
    List.append_cancel_left_eq, List.cons.injEq, true_and] at texts
  obtain ⟨protocol, texts⟩ :=
    field_append_inj (notMem_decimalText colonPlain _)
      (notMem_decimalText colonPlain _) texts
  obtain ⟨source, texts⟩ :=
    field_append_inj (notMem_addrText colonPlain notDot flow.srcAddr)
      (notMem_addrText colonPlain notDot flow'.srcAddr) texts
  obtain ⟨sourcePort, texts⟩ :=
    field_append_inj (notMem_decimalText dashPlain _)
      (notMem_decimalText dashPlain _) texts
  obtain ⟨target, targetPort⟩ :=
    field_append_inj (notMem_addrText colonPlain notDot flow.dstAddr)
      (notMem_addrText colonPlain notDot flow'.dstAddr) texts
  have protocols :=
    L3IpProtocol.asU8_injective
      (UInt8.toNat_inj.mp (decimalText_injective protocol))
  rw [Ipv4Flow.mk.injEq]
  exact ⟨protocols, Ipv4Addr.text_injective source,
    UInt16.toNat_inj.mp (decimalText_injective sourcePort),
    Ipv4Addr.text_injective target,
    UInt16.toNat_inj.mp (decimalText_injective targetPort)⟩

/-- The flow that a packet of this flow answers. -/
def Ipv4Flow.answered (flow : Ipv4Flow) : Ipv4Flow where
  protocol := flow.protocol
  srcAddr := flow.dstAddr
  srcPort := flow.dstPort
  dstAddr := flow.srcAddr
  dstPort := flow.srcPort

theorem Ipv4Flow.reverseFlowKey_eq (flow : Ipv4Flow) :
    flow.reverseFlowKey = flow.answered.flowKey :=
  rfl

theorem Ipv4Flow.flowKey_injective : Function.Injective Ipv4Flow.flowKey :=
  fun _ _ same => Ipv4Flow.eq_of_flowKey_eq same

/-- A key stands for one five-tuple, and the reverse key of a packet is the key
of the flow with the endpoints the other way round. -/
theorem flowKey_identity (flow other : Ipv4Flow) :
    (flow.flowKey = other.flowKey ↔
      flow.protocol = other.protocol ∧
        flow.srcAddr = other.srcAddr ∧ flow.srcPort = other.srcPort ∧
        flow.dstAddr = other.dstAddr ∧ flow.dstPort = other.dstPort) ∧
    (other.reverseFlowKey = flow.flowKey ↔
      other.protocol = flow.protocol ∧
        other.dstAddr = flow.srcAddr ∧ other.dstPort = flow.srcPort ∧
        other.srcAddr = flow.dstAddr ∧ other.srcPort = flow.dstPort) := by
  constructor
  · rw [Ipv4Flow.flowKey_injective.eq_iff, Ipv4Flow.mk.injEq]
  · rw [Ipv4Flow.reverseFlowKey_eq, Ipv4Flow.flowKey_injective.eq_iff,
      Ipv4Flow.answered, Ipv4Flow.mk.injEq]

end HermesAtrust.L3
