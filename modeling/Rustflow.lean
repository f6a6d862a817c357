import Rustflow.Common.TemplateCacheAccounting
import Rustflow.Common.IanaElements
import Rustflow.Common.CryptoPan
import Rustflow.Ipfix.RoundTrip
import Rustflow.Ipfix.Lengths
import Rustflow.Ipfix.CachedTypes
import Rustflow.Ipfix.TemplateCodec
import Rustflow.Ipfix.NtpRoundTrip
import Rustflow.Ipfix.Nesting
import Rustflow.Ipfix.EncodedGrowth
import Rustflow.NetflowV5.Codec
import Rustflow.SflowV5.Locality
import Rustflow.SetIsolation
import Rustflow.StateChanges
import Rustflow.LatestDefinition
import Rustflow.FieldLengths
import Rustflow.NumberWidths
import Rustflow.Export.FlowConservation
import Rustflow.Export.ExporterRuns
import Rustflow.Collect.PipelineConservation
import Rustflow.Collect.IdleWindows
import Rustflow.Collect.ReceiveWindows
import Rustflow.Collect.FinalNames
import Rustflow.Collect.ExpirySweep
import Rustflow.Collect.SweepAndWriter
import Rustflow.Collect.CivilDates
import Rustflow.Collect.CalendarLaws
import Rustflow.ConverterAgreement
import Rustflow.Ipfix.LearnedTypes
import Rustflow.Ipfix.SamplingRate
import Rustflow.Ipfix.StatedElements
import Rustflow.Lib.CappedTable
import Rustflow.NetflowV9.SamplingRate
import Rustflow.Processor
import Rustflow.SflowV5.VlanOrder
import Rustflow.Collect.Encoder
import Rustflow.Collect.WholeRecords
import Rustflow.Collect.Enrichment
import Rustflow.Collect.GroupedEnrichment
import Rustflow.Collect.FilesInRange
import Rustflow.Collect.FlushCadence
import Rustflow.Collect.Hook
import Rustflow.Collect.HookAccounting
import Rustflow.Collect.EnrichArg
import Rustflow.Collect.EnrichSafety
import Rustflow.Collect.IntervalWindows
import Rustflow.Common.Peeling
import Rustflow.Export.Meter
import Rustflow.Export.MeterSampling
import Rustflow.HeaderAgreement
import Rustflow.Common.TemplateCount
import Rustflow.Common.TemplateLasting
import Rustflow.ExporterIsolation
import Rustflow.ParserRetention
import Rustflow.Retention
import Rustflow.Ipfix.NaturalWidths
import Rustflow.Export.Readable
import Rustflow.Export.RoundTrip
import Rustflow.Collect.ProtobufStream
import Rustflow.Export.RingTurns
import Rustflow.FlowProcessor
import Rustflow.Readers
import Rustflow.Collect.IngestFiles
import Rustflow.Delivery
import Rustflow.Generate.Collected
import Rustflow.Export.Run
import Rustflow.Export.Collected
