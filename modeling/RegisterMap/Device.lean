import RegisterMap.Overrides.Basic

/-!
The known devices: the peripheral blocks of the BL808 whose register headers the generator
knows, each with the address of its header, the name and macro prefix of its block and the
documentation line of its generated text, and the overrides curated for them. A device is
found by its identifier in any case.
-/

namespace RegisterMap

structure Device where
  id : String
  header : String
  name : String
  stem : String
  doc : String
  deriving DecidableEq, Repr

namespace Device

def bouffaloHeaders : String :=
  "https://raw.githubusercontent.com/bouffalolab/bouffalo_sdk/master/drivers/soc/bl808/std/include/hardware/"

def bouffalo (id name stem doc : String) : Device :=
  { id, header := bouffaloHeaders ++ id ++ "_reg.h", name, stem, doc }

def all : List Device := [
  bouffalo "mcu_misc" "McuMisc" "MCU_MISC_" "MCU E907 register.",
  bouffalo "mm_misc" "MmMisc" "MM_MISC_" "MM C906 register.",
  bouffalo "mm_glb" "MmGlb" "MM_GLB_" "Multimedia global register.",
  bouffalo "hbn" "Hbn" "HBN_" "Hibernate register.",
  bouffalo "glb" "Glb" "GLB_" "Global register, used for clock management.",
  bouffalo "pds" "Pds" "PDS_" "Power Down Sleep register.",
  bouffalo "cci" "Cci" "CCI_" "",
  bouffalo "sf_ctrl" "SfCtrl" "SF_CTRL_" "Serial Flash.",
  bouffalo "aon" "Aon" "AON_" "Always On register.",
  { id := "dtsrc", name := "Dtsrc", stem := "DTSRC_", doc := "DVP TSRC.",
    header := "https://raw.githubusercontent.com/sipeed/M1s_BL808_SDK/master/components/platform/soc/bl808/bl808_std/BL808_BSP_Driver/dsp2_reg/dtsrc_reg.h" },
  { id := "dsp2_misc", name := "Dsp2Misc", stem := "DSP2_MISC_", doc := "DSP2 misc.",
    header := "https://raw.githubusercontent.com/sipeed/M1s_BL808_SDK/master/components/stage/dsp2/dsp2_drv/dsp2_reg/dsp2_misc_reg.h" }]

def ids (ds : List Device) : List String := ds.map (·.id)

/-- The simple lower case of a character, as far as it decides equality with a name in
ASCII: the ASCII capitals, the capital I with dot above (U+0130) and the Kelvin sign
(U+212A) lower to ASCII letters; every other character keeps or gets a lower case outside
ASCII, so it is kept. -/
def lowerChar (c : Char) : Char :=
  if 'A' ≤ c ∧ c ≤ 'Z' then Char.ofNat (c.toNat + 32)
  else if c.toNat = 0x130 then 'i'
  else if c.toNat = 0x212A then 'k'
  else c

structure NotFound where
  id : String
  deriving DecidableEq, Repr

def NotFound.message (e : NotFound) : String := "device not found: " ++ e.id

def find (ds : List Device) (id : String) : Except NotFound Device :=
  let key := String.ofList (id.toList.map lowerChar)
  match ds.find? (·.id == key) with
  | some d => .ok d
  | none => .error ⟨id⟩

/-- The devices of the identifiers in the order given, all devices when none is given, or
every identifier that was not found. -/
def select (ds : List Device) (wanted : List String) : Except (List NotFound) (List Device) :=
  if wanted.isEmpty then .ok ds
  else
    let found := wanted.map (find ds)
    let missing := found.filterMap fun | .error e => some e | .ok _ => none
    if missing.isEmpty then .ok (found.filterMap fun | .ok d => some d | .error _ => none)
    else .error missing

def notFoundMessage (es : List NotFound) : String := "\n".intercalate (es.map NotFound.message)

end Device

namespace Overrides

def aliasField (index : Nat) (name typeName doc : String) : Field :=
  { index, name := Bytes.ofString name, typeName := Bytes.ofString typeName, doc := Bytes.ofString doc }

def aliasBits (start stop : Nat) (name doc : String) : BitField :=
  { start, stop, name := Bytes.ofString name, doc := Bytes.ofString doc }

def pllAlias (index : Nat) (name : String) (cfg : Nat) : Field :=
  aliasField index (name ++ "_") ("super::PllCfg" ++ Nat.repr cfg) ("Alias for `" ++ name ++ "`.")

def builtin : Overrides where
  structs := Table.ofListWith (· ++ ·) [
    (Bytes.ofString "Pds", [aliasField 0x130 "cpu_mtimer_rtc" "super::CpuRtc" "Alias for `cpu_core_cfg8`."]),
    (Bytes.ofString "MmMisc", [aliasField 0x018 "cpu_mtimer_rtc" "super::CpuRtc" "Alias for `cpu_rtc`."]),
    (Bytes.ofString "McuMisc", [aliasField 0x014 "cpu_mtimer_rtc" "super::CpuRtc" "Alias for `mcu_e907_rtc`."]),
    (Bytes.ofString "Glb", [pllAlias 0x810 "wifi_pll_cfg0" 0, pllAlias 0x814 "wifi_pll_cfg1" 1,
      pllAlias 0x790 "mipi_pll_cfg0" 0, pllAlias 0x794 "mipi_pll_cfg1" 1,
      pllAlias 0x7D0 "uhs_pll_cfg0" 0, pllAlias 0x7D4 "uhs_pll_cfg1" 1]),
    (Bytes.ofString "Cci", [pllAlias 0x750 "audio_pll_cfg0" 0, pllAlias 0x754 "audio_pll_cfg1" 1,
      pllAlias 0x7D0 "cpu_pll_cfg0" 0, pllAlias 0x7D4 "cpu_pll_cfg1" 1])]
  registers := Table.ofListWith (· ++ ·) [
    (Bytes.ofString "HbnGlb", [aliasBits 0 1 "xclk_sel" "Alias for `root_clk_sel & 1`.",
      aliasBits 1 2 "mcu_root_sel" "Alias for `(root_clk_sel >> 1) & 1`."]),
    (Bytes.ofString "HbnRsv3", [aliasBits 0 8 "xtal_type" "Alias for `rsv3 & 0xFF`.",
      aliasBits 8 16 "xtal_flag" "Alias for `(rsv3 >> 8) & 0xFF`."]),
    (Bytes.ofString "GlbHwRsv1", [aliasBits 0 31 "flash_id" "Numeric identifier of the flash.",
      aliasBits 31 32 "flash_id_valid" "Indicate if the stored flash identifier is valid."])]
  docs := Table.ofListWith (fun _ w => w) [
    (Bytes.ofString "dl0_enable", Bytes.ofString "Enable lane number 0."),
    (Bytes.ofString "dl1_enable", Bytes.ofString "Enable lane number 1."),
    (Bytes.ofString "cl_enable", Bytes.ofString "Enable clock lane."),
    (Bytes.ofString "time_ck_settle", Bytes.ofString
      "Time interval during which the HS receiver shall ignore any clock lane HS transitions."),
    (Bytes.ofString "time_ck_term_en", Bytes.ofString
      "Time for the clock lane receiver to enable the HS line termination."),
    (Bytes.ofString "time_hs_settle", Bytes.ofString
      "Time interval during which the HS receiver shall ignore any data lane HS transitions.")]

end Overrides

end RegisterMap
