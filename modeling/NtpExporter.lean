import NtpExporter.Go.Time
import NtpExporter.Go.Map
import NtpExporter.Go.Utf8
import NtpExporter.Metrics
import NtpExporter.Metrics.Names
import NtpExporter.Ntp.Response
import NtpExporter.Ntp.Statistics
import NtpExporter.Ntp.Client
import NtpExporter.Ntp.Adaptive
import NtpExporter.Ntp.DnsCache
import NtpExporter.Ntp.Kernel
import NtpExporter.Ntp.Validator
import NtpExporter.Ntp.CircuitBreaker
import NtpExporter.Ntp.RateLimiter
import NtpExporter.Ntp.PerServer
import NtpExporter.Ntp.BreakerRuns
import NtpExporter.Ntp.WorkerPool.Model
import NtpExporter.Ntp.WorkerPool.Moves
import NtpExporter.Ntp.WorkerPool.Invariant
import NtpExporter.Ntp.WorkerPool.Flow
import NtpExporter.Ntp.WorkerPool.Pool
import NtpExporter.Ntp.WorkerPool.Concurrency
import NtpExporter.Ntp.WorkerPool.Progress
import NtpExporter.Ntp.WorkerPool.Querier
import NtpExporter.Ntp.WorkerPool.Cancellation
import NtpExporter.Ntp.WorkerPool.QueryAll
import NtpExporter.Ntp.Pool
import NtpExporter.Ntp.Magnitude
import NtpExporter.Ntp.PoolSequential
import NtpExporter.Config
import NtpExporter.Config.CommaSeparated
import NtpExporter.Config.Loader
import NtpExporter.Collector.Common
import NtpExporter.Collector.Quality
import NtpExporter.Collector.Base
import NtpExporter.Collector.Hybrid
import NtpExporter.Collector.Security
import NtpExporter.Collector.Series
import NtpExporter.Collector.Registry
import NtpExporter.Collector.Loop
import NtpExporter.Server.Http
import NtpExporter.Server.Mux
import NtpExporter.Server.Middleware
