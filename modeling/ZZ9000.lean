import ZZ9000.Config.AudioRoundTrip
import ZZ9000.Config.Guard
import ZZ9000.Config.Rewrite
import ZZ9000.Config.GuardLemmas
import ZZ9000.Concurrency.Solo
import ZZ9000.FwRelease.Checksum
import ZZ9000.Fwup.BundleLemmas
import ZZ9000.Fwup.MirrorLemmas
import ZZ9000.Mhi.Starvation
import ZZ9000.Mhi.StreamLemmas
import ZZ9000.Mhi.TransportLemmas
import ZZ9000.Net.McastLemmas
import ZZ9000.Net.RxLemmas
import ZZ9000.Net.TxLemmas
import ZZ9000.Rtg.BitmapsLemmas
import ZZ9000.Rtg.BlitterCacheLemmas
import ZZ9000.Rtg.ModeGuard
import ZZ9000.Streams.Decoder
import ZZ9000.UsbPoseidon.BulkLemmas
import ZZ9000.UsbPoseidon.DiagLemmas
import ZZ9000.UsbPoseidon.EngineLemmas
import ZZ9000.UsbPoseidon.IntConservation
import ZZ9000.UsbPoseidon.IntExclusive
import ZZ9000.UsbPoseidon.IsoLemmas
import ZZ9000.UsbPoseidon.RootHubLemmas
import ZZ9000.UsbPoseidon.RtIsoLemmas
import ZZ9000.UsbPoseidon.WorkQueueLemmas
import ZZ9000.Vcap.Capture
import ZZ9000.Numerics.BitCount
import ZZ9000.Vcap.RowAnalysis
import ZZ9000.Vcap.LiveLemmas
import ZZ9000.ZZTop.AlignLemmas
import ZZ9000.ZZTop.SamplingLemmas
import ZZ9000.Vcap.PhaseLemmas
import ZZ9000.Vcap.GeometryLemmas
import ZZ9000.ZZTop.Video
import ZZ9000.ZZTop.VideoSave
import ZZ9000.ZZRun.AhiAudio
import ZZ9000.Net.RxStatistics
import ZZ9000.Fwup.BundleResult
import ZZ9000.Net.TxBounds
import ZZ9000.UsbPoseidon.IsoWire
import ZZ9000.UsbPoseidon.IsoWireLemmas
import ZZ9000.UsbPoseidon.IsoRoundTrip
import ZZ9000.UsbPoseidon.IsoPlan
import ZZ9000.Streams.Machine
import ZZ9000.FwRelease.Chunked
import ZZ9000.FwRelease.ChunkedLemmas
import ZZ9000.FwRelease.ChunkedBody
import ZZ9000.FwRelease.HttpHead
import ZZ9000.FwRelease.HttpHeadLemmas
import ZZ9000.ZZTop.Https
import ZZ9000.ZZTop.HttpsLemmas
import ZZ9000.Net.RxCopy
import ZZ9000.UsbPoseidon.WorkerLoop
import ZZ9000.UsbPoseidon.WorkerLoopLemmas
import ZZ9000.ZZRun.AppFiles
import ZZ9000.ZZRun.AppFilesLemmas
import ZZ9000.ZZRun.AhiAudioLemmas
import ZZ9000.Numerics.Rounding
import ZZ9000.Rtg.LineSeed
import ZZ9000.SdBoot.Complete
import ZZ9000.SdBoot.ScsiSafety
import ZZ9000.Ahi.CaptureLemmas
import ZZ9000.Ahi.LeaseLemmas
import ZZ9000.Rtg.CustomClock
import ZZ9000.Rtg.CustomClockLemmas
import ZZ9000.Rtg.Modeline
import ZZ9000.Rtg.ModelineLemmas
import ZZ9000.Rtg.Staging
import ZZ9000.Rtg.StagingLemmas
import ZZ9000.Formats.Json
import ZZ9000.FwRelease.JsonScan
import ZZ9000.FwRelease.JsonScanLemmas
import ZZ9000.ZZTop.AudioRevert
import ZZ9000.Concurrency.Deadline
import ZZ9000.ZZCapture.Measure
import ZZ9000.ZZCapture.MeasureLemmas
import ZZ9000.Vcap.EyeLemmas
import ZZ9000.ZZTop.Survey
import ZZ9000.Concurrency.Observed
import ZZ9000.Vcap.SnapshotCard
import ZZ9000.Vcap.SnapshotLemmas
import ZZ9000.Vcap.Drives
import ZZ9000.Vcap.GeometryCard
import ZZ9000.Vcap.GeometryAttribution
import ZZ9000.Vcap.GeometryStale
import ZZ9000.Machines.Walk
import ZZ9000.SdBoot.Hunks
import ZZ9000.SdBoot.HunkRobust
import ZZ9000.SdBoot.HunkFile
import ZZ9000.SdBoot.HunkReading
import ZZ9000.SdBoot.HunkWay
import ZZ9000.SdBoot.HunkBlocks
import ZZ9000.SdBoot.HunkImages
import ZZ9000.SdBoot.HunkRelocation
import ZZ9000.Streams.Reader
import ZZ9000.FwRelease.Zip
import ZZ9000.FwRelease.ZipArchive
import ZZ9000.FwRelease.ZipNames
import ZZ9000.FwRelease.ZipContents
import ZZ9000.FwRelease.ZipMeaning
import ZZ9000.FwRelease.ZipRounds
import ZZ9000.FwRelease.ZipOpening
import ZZ9000.FwRelease.ZipReading
import ZZ9000.FwRelease.ZipDelivery
import ZZ9000.Net.Requests
import ZZ9000.Net.RequestsLemmas
import ZZ9000.Trees.Walk
import ZZ9000.ZZRun.RootFiles
import ZZ9000.ZZRun.RootPathLemmas
import ZZ9000.ZZRun.RootFilesLemmas
