import Rustflow.Ipfix.Convert
import Rustflow.NetflowV9.Convert

/-!
# Uptime stamps

Uptimes are sent modulo `2 ^ 32` milliseconds, about 49.7 days. A stamp less than half of that from
the export is exact, however often the uptime has wrapped.
-/

namespace Rustflow

theorem toBitVec_asU32 (x : Int) : (asU32 x).toBitVec = BitVec.ofInt 32 x := by
  apply BitVec.eq_of_toNat_eq
  rw [BitVec.toNat_ofInt]
  have low := Int.emod_nonneg x (b := 2 ^ 32) (by decide)
  have high := Int.emod_lt_of_pos x (b := 2 ^ 32) (by decide)
  have fits : (x % 2 ^ 32).toNat < UInt32.size := by
    show _ < 4294967296
    omega
  exact UInt32.toNat_ofNat_of_lt' fits

theorem toInt_sub_asU32 (x y : Int) :
    (asU32 x - asU32 y).toInt32.toInt = (x - y).bmod (2 ^ 32) := by
  show (asU32 x - asU32 y).toBitVec.toInt = _
  rw [UInt32.toBitVec_sub, toBitVec_asU32, toBitVec_asU32, BitVec.toInt_sub, BitVec.toInt_ofInt,
    BitVec.toInt_ofInt, Int.bmod_sub_bmod, Int.sub_bmod_bmod]

/-- With uptimes that count from a boot time, an event less than `2 ^ 31` milliseconds before or
after the export gets its own time. -/
theorem uptimeToAbsoluteNs_exact {boot event exported : Int} (near : |exported - event| < 2 ^ 31)
    (low : -2 ^ 63 ≤ event * 1000000) (high : event * 1000000 < 2 ^ 63) :
    uptimeToAbsoluteNs ⟨exported * 1000000⟩ (asU32 (exported - boot)) (asU32 (event - boot)) =
      some (event * 1000000) := by
  obtain ⟨after, before⟩ := abs_lt.mp near
  have offset : (asU32 (exported - boot) - asU32 (event - boot)).toInt32.toInt =
      exported - event := by
    rw [toInt_sub_asU32, show exported - boot - (event - boot) = exported - event by omega]
    apply Int.bmod_eq_of_le <;> omega
  have nanos : exported * 1000000 - (exported - event) * 1000000 = event * 1000000 := by omega
  unfold uptimeToAbsoluteNs DateTime.checkedSubMillis
  rw [offset]
  dsimp only
  rw [nanos, if_pos (by unfold DateTime.MIN_SECS DateTime.MAX_SECS; omega)]
  exact if_pos ⟨low, high⟩

/-- With the boot time in place of the uptime IPFIX reads stamps as v9 does. -/
theorem uptimes_by_boot {v9 : NetflowV9.NetFlowV9Context} {ipfix : Ipfix.IpfixContext} {boot : Int}
    (time : v9.header.unixSeconds = ipfix.header.exportTime)
    (init : ipfix.systemInitTimeMs = some boot)
    (uptime : v9.header.systemUptime = asU32 (ipfix.header.exportTime.timestampMillis - boot))
    (stamp : UInt32) :
    ipfix.uptimeToAbsoluteNs stamp = v9.uptimeToAbsoluteNs stamp := by
  unfold Ipfix.IpfixContext.uptimeToAbsoluteNs NetflowV9.NetFlowV9Context.uptimeToAbsoluteNs
  rw [time, uptime, init]
  rfl

/-- An exporter that sends its uptime and an event's modulo `2 ^ 32` has the event's time
reconstructed, and with the boot time in place of the uptime IPFIX gives what v9 does. -/
theorem uptimes_across_wraps :
    (∀ boot event exported : Int, |exported - event| < 2 ^ 31 → -2 ^ 63 ≤ event * 1000000 →
      event * 1000000 < 2 ^ 63 →
      uptimeToAbsoluteNs ⟨exported * 1000000⟩ (asU32 (exported - boot)) (asU32 (event - boot)) =
        some (event * 1000000)) ∧
    ∀ (v9 : NetflowV9.NetFlowV9Context) (ipfix : Ipfix.IpfixContext) (boot : Int),
      v9.header.unixSeconds = ipfix.header.exportTime → ipfix.systemInitTimeMs = some boot →
        v9.header.systemUptime = asU32 (ipfix.header.exportTime.timestampMillis - boot) →
          ∀ stamp, ipfix.uptimeToAbsoluteNs stamp = v9.uptimeToAbsoluteNs stamp := by
  refine ⟨fun boot event exported near low high => uptimeToAbsoluteNs_exact near low high, ?_⟩
  exact fun v9 ipfix boot time init uptime => uptimes_by_boot time init uptime

/-- Ten seconds that the uptime wraps in. -/
theorem uptimes_across_one_wrap :
    uptimeToAbsoluteNs ⟨4294972296 * 1000000⟩ 5000 4294962296 = some (4294962296 * 1000000) ∧
      ∀ stamp, Ipfix.IpfixContext.uptimeToAbsoluteNs ⟨⟨10, 16, ⟨4294972296000000⟩, 1, 1⟩, none,
        none, some 0⟩ stamp =
        NetflowV9.NetFlowV9Context.uptimeToAbsoluteNs ⟨⟨9, 1, 5000, ⟨4294972296000000⟩, 1, 1⟩,
          none, none⟩ stamp := by
  obtain ⟨exact, same⟩ := uptimes_across_wraps
  exact ⟨exact 0 4294962296 4294972296 (by decide) (by decide) (by decide), same _ _ 0 rfl rfl rfl⟩

end Rustflow
