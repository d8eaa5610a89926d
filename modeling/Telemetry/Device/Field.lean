/-! The fields that a device manager samples, each with a number, a name and the type of its
    readings. No two fields share a number or a name. -/

namespace Telemetry

/-- The declared type of a field's readings. -/
inductive FieldType where
  | binary
  | double
  | int64
  | string
  | timestamp
  deriving DecidableEq, Repr, Inhabited

namespace FieldType

def all : List FieldType := [binary, double, int64, string, timestamp]

def name : FieldType → String
  | binary => "binary"
  | double => "double"
  | int64 => "int64"
  | string => "string"
  | timestamp => "timestamp"

/-- The type with this name. -/
def ofName? (s : String) : Option FieldType := all.find? fun t => t.name == s

theorem ofName?_name (t : FieldType) : ofName? t.name = some t := by cases t <;> decide

end FieldType

/-- The number of a field. -/
abbrev FieldId := UInt16

/-- A field. -/
structure Field where
  id : FieldId
  name : String
  type : FieldType
  deriving DecidableEq, Repr, Inhabited

namespace Field

/-- All fields, by ascending number. -/
def table : List Field :=
  [ ⟨1, "DCGM_FI_DRIVER_VERSION", .string⟩,
    ⟨50, "DCGM_FI_DEV_NAME", .string⟩,
    ⟨51, "DCGM_FI_DEV_BRAND", .string⟩,
    ⟨53, "DCGM_FI_DEV_SERIAL", .string⟩,
    ⟨54, "DCGM_FI_DEV_UUID", .string⟩,
    ⟨57, "DCGM_FI_DEV_PCI_BUSID", .string⟩,
    ⟨100, "DCGM_FI_DEV_SM_CLOCK", .int64⟩,
    ⟨101, "DCGM_FI_DEV_MEM_CLOCK", .int64⟩,
    ⟨102, "DCGM_FI_DEV_VIDEO_CLOCK", .int64⟩,
    ⟨140, "DCGM_FI_DEV_MEMORY_TEMP", .int64⟩,
    ⟨150, "DCGM_FI_DEV_GPU_TEMP", .int64⟩,
    ⟨155, "DCGM_FI_DEV_POWER_USAGE", .double⟩,
    ⟨156, "DCGM_FI_DEV_TOTAL_ENERGY_CONSUMPTION", .int64⟩,
    ⟨160, "DCGM_FI_DEV_POWER_MGMT_LIMIT", .double⟩,
    ⟨190, "DCGM_FI_DEV_PSTATE", .int64⟩,
    ⟨191, "DCGM_FI_DEV_FAN_SPEED", .int64⟩,
    ⟨200, "DCGM_FI_DEV_PCIE_TX_THROUGHPUT", .int64⟩,
    ⟨201, "DCGM_FI_DEV_PCIE_RX_THROUGHPUT", .int64⟩,
    ⟨202, "DCGM_FI_DEV_PCIE_REPLAY_COUNTER", .int64⟩,
    ⟨203, "DCGM_FI_DEV_GPU_UTIL", .int64⟩,
    ⟨204, "DCGM_FI_DEV_MEM_COPY_UTIL", .int64⟩,
    ⟨206, "DCGM_FI_DEV_ENC_UTIL", .int64⟩,
    ⟨207, "DCGM_FI_DEV_DEC_UTIL", .int64⟩,
    ⟨230, "DCGM_FI_DEV_XID_ERRORS", .int64⟩,
    ⟨240, "DCGM_FI_DEV_POWER_VIOLATION", .int64⟩,
    ⟨241, "DCGM_FI_DEV_THERMAL_VIOLATION", .int64⟩,
    ⟨250, "DCGM_FI_DEV_FB_TOTAL", .int64⟩,
    ⟨251, "DCGM_FI_DEV_FB_FREE", .int64⟩,
    ⟨252, "DCGM_FI_DEV_FB_USED", .int64⟩,
    ⟨310, "DCGM_FI_DEV_ECC_SBE_VOL_TOTAL", .int64⟩,
    ⟨311, "DCGM_FI_DEV_ECC_DBE_VOL_TOTAL", .int64⟩,
    ⟨312, "DCGM_FI_DEV_ECC_SBE_AGG_TOTAL", .int64⟩,
    ⟨313, "DCGM_FI_DEV_ECC_DBE_AGG_TOTAL", .int64⟩,
    ⟨390, "DCGM_FI_DEV_RETIRED_SBE", .int64⟩,
    ⟨391, "DCGM_FI_DEV_RETIRED_DBE", .int64⟩,
    ⟨392, "DCGM_FI_DEV_RETIRED_PENDING", .int64⟩,
    ⟨409, "DCGM_FI_DEV_NVLINK_CRC_FLIT_ERROR_COUNT_TOTAL", .int64⟩,
    ⟨419, "DCGM_FI_DEV_NVLINK_CRC_DATA_ERROR_COUNT_TOTAL", .int64⟩,
    ⟨429, "DCGM_FI_DEV_NVLINK_REPLAY_ERROR_COUNT_TOTAL", .int64⟩,
    ⟨439, "DCGM_FI_DEV_NVLINK_RECOVERY_ERROR_COUNT_TOTAL", .int64⟩,
    ⟨449, "DCGM_FI_DEV_NVLINK_BANDWIDTH_TOTAL", .int64⟩,
    ⟨1001, "DCGM_FI_PROF_GR_ENGINE_ACTIVE", .double⟩,
    ⟨1002, "DCGM_FI_PROF_SM_ACTIVE", .double⟩,
    ⟨1003, "DCGM_FI_PROF_SM_OCCUPANCY", .double⟩,
    ⟨1004, "DCGM_FI_PROF_PIPE_TENSOR_ACTIVE", .double⟩,
    ⟨1005, "DCGM_FI_PROF_DRAM_ACTIVE", .double⟩,
    ⟨1006, "DCGM_FI_PROF_PIPE_FP64_ACTIVE", .double⟩,
    ⟨1007, "DCGM_FI_PROF_PIPE_FP32_ACTIVE", .double⟩,
    ⟨1008, "DCGM_FI_PROF_PIPE_FP16_ACTIVE", .double⟩,
    ⟨1009, "DCGM_FI_PROF_PCIE_TX_BYTES", .int64⟩,
    ⟨1010, "DCGM_FI_PROF_PCIE_RX_BYTES", .int64⟩,
    ⟨1011, "DCGM_FI_PROF_NVLINK_TX_BYTES", .int64⟩,
    ⟨1012, "DCGM_FI_PROF_NVLINK_RX_BYTES", .int64⟩ ]

/-- The field with this name. -/
def byName? (name : String) : Option Field := table.find? fun f => f.name == name

/-- The field with this number. -/
def byId? (id : FieldId) : Option Field := table.find? fun f => f.id == id

/-- The field that holds the version of the driver. -/
def driverVersion : FieldId := 1

/-- The field that holds the name of an entity: the model of a device, the profile of a partition. -/
def deviceName : FieldId := 50

/-- The field that holds the identity of a device. -/
def deviceUuid : FieldId := 54

theorem nodup_ids : (table.map Field.id).Nodup := by decide +kernel

theorem nodup_names : (table.map Field.name).Nodup := by decide +kernel

end Field
end Telemetry
