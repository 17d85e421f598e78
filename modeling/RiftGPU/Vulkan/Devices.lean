import Mathlib.Data.List.MinMax
import Mathlib.Data.List.Sort
import Mathlib.Data.Prod.Lex
import RiftGPU.Core.Backend
import RiftGPU.Text.Utf8

/-!
# The choice of a Vulkan device

Two parts of the system choose one of the devices that the Vulkan driver lists. The bridge takes a
device with a compute queue that can export memory; the probe of the backend reports on a device
with a compute queue. Both rank their candidates and take the best. This file models
`select_vulkan_device`, which `vrb-vulkan-shared-buffer` and the interop module of `vrb-backends`
have in common on Windows, and the Vulkan backend of `vrb-backends`, for every operating system.

## Main definitions

* `Vulkan.PhysicalDevice`: what the driver says about a device.
* `Vulkan.TargetOs`: what the program is compiled for.
* `Vulkan.selectVulkanDevice`: the device that the bridge takes.
* `Vulkan.VulkanRuntimeInfo.preferredComputeDevice`, `Vulkan.VulkanRuntimeInfo.probe`: the device
  that the backend reports on.
-/

namespace RiftGPU.Vulkan

open Bytes

/-- The vendor that the ranks prefer. -/
def amdPciVendorId : BitVec 32 := 0x1002#32

/-- `COMPUTE`, an ability of a queue family. -/
def computeFlag : BitVec 32 := 2#32

/-- `DISCRETE_GPU`, a type of device. -/
def discreteGpu : BitVec 32 := 2#32

/-- The operating system that the program is compiled for. -/
inductive TargetOs where
  | windows
  | linux
  | other
deriving DecidableEq, Repr

/-- The extension that shares memory on Windows. -/
def externalMemoryWin32 : String := "VK_KHR_external_memory_win32"

/-- The extension that shares semaphores on Windows. -/
def externalSemaphoreWin32 : String := "VK_KHR_external_semaphore_win32"

/-- The extension that shares memory on Linux. -/
def externalMemoryFd : String := "VK_KHR_external_memory_fd"

/-- The extension that shares semaphores on Linux. -/
def externalSemaphoreFd : String := "VK_KHR_external_semaphore_fd"

/-- A family of queues with the same abilities. -/
structure QueueFamily where
  queueCount : BitVec 32
  queueFlags : BitVec 32
deriving DecidableEq, Repr

/-- What the driver says about a device. The names are given by their bytes. -/
structure PhysicalDevice where
  deviceName : List Byte
  vendorId : BitVec 32
  deviceId : BitVec 32
  apiVersion : BitVec 32
  deviceType : BitVec 32
  queueFamilies : List QueueFamily
  extensions : Except String (List (List Byte))
deriving DecidableEq

/-- The queue family has queues that compute. -/
def QueueFamily.computes (family : QueueFamily) : Bool :=
  0#32 < family.queueCount && family.queueFlags &&& computeFlag == computeFlag

namespace PhysicalDevice

variable (device : PhysicalDevice)

/-- The name, with replacement characters for what is not UTF-8. -/
def name : String := Text.fromUtf8Lossy device.deviceName

/-- The first queue family that computes. -/
def computeQueue : Option ℕ :=
  (device.queueFamilies.zipIdx.find? fun entry => entry.1.computes).map Prod.snd

/-- The place of a word in an order that puts one of its values first. -/
def preferring (preferred : Bool) : ℕ := if preferred then 0 else 1

/-- Devices of the preferred vendor come first, then discrete ones, then smaller identifiers. -/
def rank : ℕ ×ₗ ℕ ×ₗ ℕ :=
  toLex (preferring (device.vendorId == amdPciVendorId),
    toLex (preferring (device.deviceType == discreteGpu), device.deviceId.toNat))

end PhysicalDevice

/-! ### The device of the bridge -/

/-- A device with its position in the list of the driver, and its queue family. -/
abbrev Candidate := (PhysicalDevice × ℕ) × ℕ

/-- The candidates, with the device at hand when it has a compute queue and can export memory. -/
def considerDevice (candidates : List Candidate) (entry : PhysicalDevice × ℕ) :
    Except BackendError (List Candidate) :=
  match entry.1.computeQueue with
  | none => .ok candidates
  | some queueFamilyIndex => do
    let extensions ← entry.1.extensions.mapError fun error =>
      .probe s!"enumerate Vulkan extensions: {error}"
    if extensions.any fun extension => extension == ascii externalMemoryWin32 then
      return candidates ++ [(entry, queueFamilyIndex)]
    else return candidates

/-- `select_vulkan_device`: the position of the device, its queue family and its name. -/
def selectVulkanDevice (physicalDevices : Except String (List PhysicalDevice)) :
    Except BackendError (ℕ × ℕ × String) := do
  let devices ← physicalDevices.mapError fun error => .probe s!"enumerate Vulkan devices: {error}"
  let candidates ← devices.zipIdx.foldlM considerDevice []
  let sorted := candidates.insertionSort fun a b => a.1.1.rank ≤ b.1.1.rank
  let ((device, index), queueFamilyIndex) ← sorted.head?.okOr (.unavailable
    "no compute-capable Vulkan device with VK_KHR_external_memory_win32 was found")
  return (index, queueFamilyIndex, device.name)

/-! ### The device of the probe -/

/-- What the backend says about a device. -/
structure VulkanDeviceInfo where
  name : String
  vendorId : BitVec 32
  deviceId : BitVec 32
  apiVersion : BitVec 32
  deviceType : BitVec 32
  computeQueue : Bool
  externalMemory : Bool
  externalSemaphore : Bool
deriving DecidableEq, Repr

namespace VulkanDeviceInfo

variable (device : VulkanDeviceInfo)

/-- The device is a graphics card of its own. -/
def isDiscrete : Bool := device.deviceType == discreteGpu

/-- A rank as that of the bridge, where devices that share both kinds of resources come before
others of the same vendor and type. -/
def bridgeScore : ℕ ×ₗ ℕ ×ₗ ℕ ×ₗ ℕ :=
  toLex (PhysicalDevice.preferring (device.vendorId == amdPciVendorId),
    toLex (PhysicalDevice.preferring device.isDiscrete,
      toLex (PhysicalDevice.preferring (device.externalMemory && device.externalSemaphore),
        device.deviceId.toNat)))

end VulkanDeviceInfo

/-- What the backend says about the driver. -/
structure VulkanRuntimeInfo where
  loaderAvailable : Bool
  devices : List VulkanDeviceInfo

/-- The first of the best compute devices. -/
def VulkanRuntimeInfo.preferredComputeDevice (info : VulkanRuntimeInfo) :
    Option VulkanDeviceInfo :=
  (info.devices.filter fun device => device.computeQueue).argmin VulkanDeviceInfo.bridgeScore

/-- Whether memory and semaphores can be shared, by the extensions of the operating system. -/
def externalResourceSupport (targetOs : TargetOs) (extensions : List String) : Bool × Bool :=
  match targetOs with
  | .windows =>
    (extensions.contains externalMemoryWin32, extensions.contains externalSemaphoreWin32)
  | .linux => (extensions.contains externalMemoryFd, extensions.contains externalSemaphoreFd)
  | .other => (false, false)

/-- The description of a device. -/
def describeDevice (targetOs : TargetOs) (device : PhysicalDevice) :
    Except BackendError VulkanDeviceInfo := do
  let extensionProperties ← device.extensions.mapError fun error =>
    .probe s!"enumerate device extensions: {error}"
  let (externalMemory, externalSemaphore) :=
    externalResourceSupport targetOs (extensionProperties.map Text.fromUtf8Lossy)
  return {
    name := device.name
    vendorId := device.vendorId
    deviceId := device.deviceId
    apiVersion := device.apiVersion
    deviceType := device.deviceType
    computeQueue := device.queueFamilies.any QueueFamily.computes
    externalMemory
    externalSemaphore }

/-- The part of `runtime_info` that runs while its instance exists. -/
def describeDevices (targetOs : TargetOs) (physicalDevices : Except String (List PhysicalDevice)) :
    Except BackendError VulkanRuntimeInfo := do
  let physicalDevices ← physicalDevices.mapError fun error => .probe s!"enumerate devices: {error}"
  let devices ← physicalDevices.mapM (describeDevice targetOs)
  return { loaderAvailable := true, devices }

/-- The name of a device type. -/
def physicalDeviceTypeName (value : BitVec 32) : String :=
  if value = discreteGpu then "discrete_gpu"
  else if value = 1#32 then "integrated_gpu"
  else if value = 3#32 then "virtual_gpu"
  else if value = 4#32 then "cpu"
  else "other"

/-- Lower-case hexadecimal digits, at least four of them. -/
def hex4 (value : BitVec 32) : String :=
  let digits := String.ofList (Nat.toDigits 16 value.toNat)
  String.ofList (List.replicate (4 - digits.length) '0') ++ digits

/-- An entry of the inventory. -/
def inventoryEntry (device : VulkanDeviceInfo) : String :=
  s!"{device.name}[vendor=0x{hex4 device.vendorId},device=0x{hex4 device.deviceId}," ++
    s!"type={physicalDeviceTypeName device.deviceType}]"

/-- The probe of the Vulkan backend. -/
def VulkanRuntimeInfo.probe (info : VulkanRuntimeInfo) : BackendProbe :=
  let computeDevices := info.devices.filter fun device => device.computeQueue
  let preferred := info.preferredComputeDevice
  let externalMemory := preferred.any fun device => device.externalMemory
  let externalSemaphore := preferred.any fun device => device.externalSemaphore
  let inventory := "; ".intercalate (computeDevices.map inventoryEntry)
  {
    id := ⟨"vulkan"⟩
    kind := .vulkan
    name := (preferred.map VulkanDeviceInfo.name).getD "Vulkan"
    vendor := (preferred.map fun device => s!"PCI vendor 0x{hex4 device.vendorId}").getD ""
    available := preferred.isSome
    deviceCount := BitVec.ofNat 32 computeDevices.length
    detail := (preferred.map fun device =>
      s!"selected_device_id=0x{hex4 device.deviceId}, " ++
      s!"selected_type={physicalDeviceTypeName device.deviceType}, " ++
      s!"api_version={device.apiVersion.toNat}, external_memory={device.externalMemory}, " ++
      s!"external_semaphore={device.externalSemaphore}; inventory={inventory}").getD
        "No compute-capable Vulkan physical device"
    capabilities := {
      operations := [.copy, .custom]
      dataTypes := [.unknown]
      externalMemory
      externalSemaphore
      zeroCopy := externalMemory && externalSemaphore } }

end RiftGPU.Vulkan
