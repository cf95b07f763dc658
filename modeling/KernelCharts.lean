import KernelCharts.Main
import KernelCharts.Proofs.Chart.Partition
import KernelCharts.Proofs.Table.Survivors
import KernelCharts.Proofs.Report.Reading
import KernelCharts.Proofs.Grid.Zeros
import KernelCharts.Proofs.Chart.Separation
import KernelCharts.Proofs.Plot.Figures
import KernelCharts.Proofs.Report.Context
import KernelCharts.Proofs.Report.Attribution
import KernelCharts.Proofs.Number.Numerals
import KernelCharts.Proofs.Report.Header
import KernelCharts.Proofs.Report.RoundTrip
import KernelCharts.Proofs.Table.Cleaned
import KernelCharts.Proofs.Table.Kernels
import KernelCharts.Proofs.Table.Merge
import KernelCharts.Proofs.Extraction.Cell
import KernelCharts.Proofs.Extraction.Header
import KernelCharts.Proofs.Kernel.Names
import KernelCharts.Proofs.Delimited.Fields
import KernelCharts.Proofs.Delimited.Header
import KernelCharts.Proofs.Delimited.Scanning
import KernelCharts.Proofs.Delimited.RoundTrip
import KernelCharts.Proofs.Report.Feed
import KernelCharts.Proofs.Report.Soundness
import KernelCharts.Proofs.Delimited.Reading
import KernelCharts.Proofs.Delimited.Feed
import KernelCharts.Proofs.Grid.Legend
import KernelCharts.Proofs.Grid.Load
import KernelCharts.Proofs.Grid.Order
import KernelCharts.Proofs.FileSystem.Images
import KernelCharts.Proofs.Session.Images
import KernelCharts.Proofs.Line.Load
import KernelCharts.Proofs.Plot.Effects
import KernelCharts.Proofs.Line.Segments
import KernelCharts.Proofs.Line.Drawing
import KernelCharts.Proofs.Line.Listing
import KernelCharts.Proofs.Line.Charts
import KernelCharts.Proofs.Number.Exact
import KernelCharts.Proofs.Chart.Ticks
import KernelCharts.Proofs.Chart.Panels
import KernelCharts.Proofs.Line.Decomposition
import KernelCharts.Proofs.Line.Labels
import KernelCharts.Proofs.Grid.Drawing
import KernelCharts.Proofs.Chart.Ascending
import KernelCharts.Proofs.Delimited.ColumnOrder
import KernelCharts.Proofs.Grid.TickLabels
import KernelCharts.Proofs.Session.Attempts
import KernelCharts.Proofs.Report.Indexing
import KernelCharts.Proofs.Plot.Bounds
import KernelCharts.Proofs.Chart.Axis
import KernelCharts.Proofs.Grid.Tiling
import KernelCharts.Proofs.Grid.LegendPlaces
import KernelCharts.Proofs.Number.Approximate
import KernelCharts.Proofs.Report.Pattern
import KernelCharts.Proofs.Session.Directives
import KernelCharts.Proofs.Session.Console
import KernelCharts.Proofs.Text.Pattern
import KernelCharts.Proofs.Report.Writing
import KernelCharts.Proofs.Extraction.Count
import KernelCharts.Proofs.Grid.Suffix
import KernelCharts.Proofs.Kernel.Resolution
