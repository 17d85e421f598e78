import RiftGPU.Text.Trim
import RiftGPU.Text.Utf8
import RiftGPU.Text.Substring
import RiftGPU.Operators.Operator
import RiftGPU.Operators.PluginAbi
import RiftGPU.Operators.Abi
import RiftGPU.Operators.Loader
import RiftGPU.Operators.Registry
import RiftGPU.SharedOperators.Abi
import RiftGPU.SharedOperators.Registry
import RiftGPU.SharedOperators.Loader
import RiftGPU.SharedOperators.TestPlugin
import RiftGPU.SharedOperators.Dispatch
import RiftGPU.SharedOperators.Coherence
import RiftGPU.SharedOperators.FirstChoice
import RiftGPU.SharedOperators.Descriptors
import RiftGPU.Residency.Spec
import RiftGPU.Lru.OrderedMap
import RiftGPU.Lru.Eviction
import RiftGPU.Lru.Recency
import RiftGPU.Residency.Cache
import RiftGPU.Residency.Accounting
import RiftGPU.Residency.History
import RiftGPU.Residency.FailedAcquire
import RiftGPU.KvCache.Cache
import RiftGPU.KvCache.Invariant
import RiftGPU.KvCache.Atomicity
import RiftGPU.KvCache.History
import RiftGPU.KvCache.SequenceEviction
import RiftGPU.Core.Backend
import RiftGPU.Layered.ShortestPath
import RiftGPU.Lifetime.Scope
import RiftGPU.Lifetime.Simulation
import RiftGPU.Lifetime.Monitor
import RiftGPU.Vulkan.Devices
import RiftGPU.Vulkan.Context
import RiftGPU.Vulkan.Lifetimes
import RiftGPU.Vulkan.Outcomes
import RiftGPU.Vulkan.Ownership
import RiftGPU.ExecutionPlan.Planner
import RiftGPU.ExecutionPlan.Optimality
import RiftGPU.ExecutionPlan.Account
import RiftGPU.ExecutionPlan.ProbeOrder
import RiftGPU.Word.Checked
import RiftGPU.Word.LittleEndian
import RiftGPU.Word.Outcome
import RiftGPU.Word.Float32
import RiftGPU.Word.Index
import RiftGPU.Word.OpenTags
import RiftGPU.Trace.Traced
import RiftGPU.Trace.Monitor
import RiftGPU.Attention.Protocol
import RiftGPU.Attention.ProtocolRoundTrip
import RiftGPU.Gemm.Protocol
import RiftGPU.Gemm.ProtocolRoundTrip
import RiftGPU.Gemm.DecoderRule
import RiftGPU.Gemm.Reference
import RiftGPU.RowMajor.Table
import RiftGPU.RowMajor.Matrix
import RiftGPU.RowMajor.Tensor
import RiftGPU.Gemm.SharedProtocol
import RiftGPU.Gemm.SharedSizes
import RiftGPU.Gemm.SharedRoundTrip
import RiftGPU.Gemm.HipPlugin
import RiftGPU.Gemm.HipAgreement
import RiftGPU.Gemm.HipRejection
import RiftGPU.Gemm.HipExecution
import RiftGPU.Gemm.HipLifecycle
import RiftGPU.Gemm.HipLifetimes
import RiftGPU.Gemm.HipDevices
import RiftGPU.Gemm.HipRefinement
import RiftGPU.Gemm.ReferenceValues
import RiftGPU.Gemm.ResponseRoundTrip
import RiftGPU.Gemm.ReferenceResponse
import RiftGPU.Gemm.ReferenceOracle
import RiftGPU.Gemm.ReferencePlugin
import RiftGPU.Gemm.DynamicPath
import RiftGPU.Gemm.DecodeAllocations
import RiftGPU.Gemm.WorkBound
import RiftGPU.Lists.Upsert
import RiftGPU.Lists.Selection
import RiftGPU.Word.Float64
import RiftGPU.Word.Float64Value
import RiftGPU.Files.Disk
import RiftGPU.Autotune.Database
import RiftGPU.Autotune.ReadPaths
import RiftGPU.Autotune.History
import RiftGPU.Autotune.Save
import RiftGPU.Core.Routing
import RiftGPU.ExecutionPlan.SingleStep
import RiftGPU.Attention.Reference
import RiftGPU.Attention.ReferenceRows
import RiftGPU.Attention.ReferenceOutput
import RiftGPU.Attention.Causality
import RiftGPU.Attention.Safety
import RiftGPU.Reals.Softmax
import RiftGPU.Attention.Softmax
import RiftGPU.SharedBuffers.Session
import RiftGPU.SharedBuffers.Reclaim
import RiftGPU.SharedBuffers.Ownership
import RiftGPU.SharedBuffers.Platform
import RiftGPU.SharedBuffers.Lifetimes
import RiftGPU.SharedBuffers.Refinement
import RiftGPU.Interop.SelectDevice
import RiftGPU.Interop.Bridge
import RiftGPU.Interop.BridgeLifetimes
import RiftGPU.Backends.Abi
import RiftGPU.Backends.Builtin
import RiftGPU.Backends.Plugin
import RiftGPU.Cli.Route
import RiftGPU.SharedBuffers.Transfer
