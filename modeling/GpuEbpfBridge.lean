import GpuEbpfBridge.PidMaps
import GpuEbpfBridge.Publication
import GpuEbpfBridge.Freshness
import GpuEbpfBridge.DeviceSlots
import GpuEbpfBridge.Delivery
import GpuEbpfBridge.Accounting
import GpuEbpfBridge.Lifecycle
import GpuEbpfBridge.Aggregate
import GpuEbpfBridge.TickFailures
import GpuEbpfBridge.Stamps
import GpuEbpfBridge.Merge
import GpuEbpfBridge.Watermark
import GpuEbpfBridge.InitFailures
import GpuEbpfBridge.NvmlFailures
import GpuEbpfBridge.Narrowing
import GpuEbpfBridge.MockFleet
import GpuEbpfBridge.Board
import GpuEbpfBridge.Confluence
import GpuEbpfBridge.IterationOrders
import GpuEbpfBridge.PinLifetimes
import GpuEbpfBridge.Executions
import GpuEbpfBridge.Dump
import GpuEbpfBridge.Records
import GpuEbpfBridge.Eviction
import GpuEbpfBridge.Consumers
import GpuEbpfBridge.MockClock
import GpuEbpfBridge.Invocations
