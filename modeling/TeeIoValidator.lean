import TeeIoValidator.Library.Block
import TeeIoValidator.Library.Chain
import TeeIoValidator.Library.Checked
import TeeIoValidator.Library.Disposal
import TeeIoValidator.Library.Fallible
import TeeIoValidator.Library.Flags
import TeeIoValidator.Library.Framing
import TeeIoValidator.Library.History
import TeeIoValidator.Library.Iteration
import TeeIoValidator.Library.LinkedList
import TeeIoValidator.Library.Ownership
import TeeIoValidator.Library.Polling
import TeeIoValidator.Library.Table
import TeeIoValidator.Library.Tokens
import TeeIoValidator.Library.Tracked
import TeeIoValidator.Library.Trim
import TeeIoValidator.Model.Assertion
import TeeIoValidator.Model.BusScan
import TeeIoValidator.Model.ConfigSpace
import TeeIoValidator.Model.CxlIde
import TeeIoValidator.Model.CxlIdeKm
import TeeIoValidator.Model.CxlIdeSetup
import TeeIoValidator.Model.CxlIdeTest
import TeeIoValidator.Model.CxlMemcache
import TeeIoValidator.Model.CxlPortCaps
import TeeIoValidator.Model.CxlTxControl
import TeeIoValidator.Model.DecimalLists
import TeeIoValidator.Model.DeviceTable
import TeeIoValidator.Model.Doe
import TeeIoValidator.Model.DoeDiscovery
import TeeIoValidator.Model.GroupSetup.Cxl
import TeeIoValidator.Model.GroupSetup.Pcie
import TeeIoValidator.Model.GroupSetup.Process
import TeeIoValidator.Model.GroupSetup.Run
import TeeIoValidator.Model.GroupSetup.Scan
import TeeIoValidator.Model.IniConfig.NameTables
import TeeIoValidator.Model.IniConfig.Parse
import TeeIoValidator.Model.IniConfig.Prepare
import TeeIoValidator.Model.IniConfig.Records
import TeeIoValidator.Model.IniConfig.Sections
import TeeIoValidator.Model.IniConfig.SwConns
import TeeIoValidator.Model.IniConfig.TestFuncs
import TeeIoValidator.Model.IniConfig.Topology
import TeeIoValidator.Model.IniConfig.Values
import TeeIoValidator.Model.IniFile
import TeeIoValidator.Model.KeyOrder
import TeeIoValidator.Model.Keyp
import TeeIoValidator.Model.Measurement
import TeeIoValidator.Model.Pcap
import TeeIoValidator.Model.PcieIde.Association
import TeeIoValidator.Model.PcieIde.Ecap
import TeeIoValidator.Model.PcieIde.Kcbar
import TeeIoValidator.Model.PcieIde.KeyManagement
import TeeIoValidator.Model.PcieIde.StreamPorts
import TeeIoValidator.Model.PcieIde.StreamRegisters
import TeeIoValidator.Model.PcieIdeTest.Case
import TeeIoValidator.Model.PcieIdeTest.Ports
import TeeIoValidator.Model.PortQuery
import TeeIoValidator.Model.Register
import TeeIoValidator.Model.Report
import TeeIoValidator.Model.Results
import TeeIoValidator.Model.Runner
import TeeIoValidator.Model.SpdmTestCases
import TeeIoValidator.Model.Stopping
import TeeIoValidator.Model.Suite
import TeeIoValidator.Model.Tdisp.Case
import TeeIoValidator.Model.Tdisp.Device
import TeeIoValidator.Model.Tdisp.Message
import TeeIoValidator.Model.Tdisp.ReportStructure
import TeeIoValidator.Model.Tdisp.Stream
import TeeIoValidator.Model.TestData.Clean
import TeeIoValidator.Model.TestData.Prepare
import TeeIoValidator.Model.TestData.Run
import TeeIoValidator.Model.Tsp
import TeeIoValidator.Model.Tsp.Capabilities
import TeeIoValidator.Model.Tsp.Configuration
import TeeIoValidator.Verification.BusScan
import TeeIoValidator.Verification.ConfigSpace
import TeeIoValidator.Verification.CxlIde
import TeeIoValidator.Verification.CxlIdeKm
import TeeIoValidator.Verification.CxlIdeSetup.Keys
import TeeIoValidator.Verification.CxlIdeSetup.Messages
import TeeIoValidator.Verification.CxlIdeSetup.Order
import TeeIoValidator.Verification.CxlIdeSetup.Refinement
import TeeIoValidator.Verification.CxlIdeTest
import TeeIoValidator.Verification.CxlMemcache
import TeeIoValidator.Verification.CxlPortCaps
import TeeIoValidator.Verification.CxlTxControl
import TeeIoValidator.Verification.DecimalLists.Agreement
import TeeIoValidator.Verification.DecimalLists.Converting
import TeeIoValidator.Verification.DecimalLists.Filling
import TeeIoValidator.Verification.DecimalLists.Scanning
import TeeIoValidator.Verification.DecimalLists.Strings
import TeeIoValidator.Verification.DeviceTable
import TeeIoValidator.Verification.Doe.Accesses
import TeeIoValidator.Verification.Doe.Exchange
import TeeIoValidator.Verification.Doe.Framing
import TeeIoValidator.Verification.Doe.Receive
import TeeIoValidator.Verification.Doe.Send
import TeeIoValidator.Verification.DoeDiscovery
import TeeIoValidator.Verification.EarlyExits
import TeeIoValidator.Verification.GroupSetup.Cxl
import TeeIoValidator.Verification.GroupSetup.Pcie
import TeeIoValidator.Verification.GroupSetup.Process
import TeeIoValidator.Verification.GroupSetup.Run
import TeeIoValidator.Verification.GroupSetup.Scan
import TeeIoValidator.Verification.GroupSetup.Spdm
import TeeIoValidator.Verification.GroupSetup.Steps
import TeeIoValidator.Verification.IniConfig.Accepted
import TeeIoValidator.Verification.IniConfig.BitMaps
import TeeIoValidator.Verification.IniConfig.CaseSafety
import TeeIoValidator.Verification.IniConfig.Cases
import TeeIoValidator.Verification.IniConfig.Closed
import TeeIoValidator.Verification.IniConfig.ConfigSafety
import TeeIoValidator.Verification.IniConfig.Described
import TeeIoValidator.Verification.IniConfig.Lookups
import TeeIoValidator.Verification.IniConfig.NameTables
import TeeIoValidator.Verification.IniConfig.Paths
import TeeIoValidator.Verification.IniConfig.Ports
import TeeIoValidator.Verification.IniConfig.Preparation
import TeeIoValidator.Verification.IniConfig.RunConfigs
import TeeIoValidator.Verification.IniConfig.SelectedSuite
import TeeIoValidator.Verification.IniConfig.Selection
import TeeIoValidator.Verification.IniConfig.Suites
import TeeIoValidator.Verification.IniConfig.SwConns
import TeeIoValidator.Verification.IniConfig.Switches
import TeeIoValidator.Verification.IniConfig.Topologies
import TeeIoValidator.Verification.IniConfig.TopologyRuns
import TeeIoValidator.Verification.IniFile.Document
import TeeIoValidator.Verification.IniFile.Lines
import TeeIoValidator.Verification.IniFile.Ownership
import TeeIoValidator.Verification.IniFile.Reading
import TeeIoValidator.Verification.IniFile.Rejection
import TeeIoValidator.Verification.KeyOrder
import TeeIoValidator.Verification.Keyp
import TeeIoValidator.Verification.Measurement
import TeeIoValidator.Verification.Pcap
import TeeIoValidator.Verification.PcieIde.Allocation
import TeeIoValidator.Verification.PcieIde.Answers
import TeeIoValidator.Verification.PcieIde.Association
import TeeIoValidator.Verification.PcieIde.Closing
import TeeIoValidator.Verification.PcieIde.Ecap
import TeeIoValidator.Verification.PcieIde.Execution
import TeeIoValidator.Verification.PcieIde.Keys
import TeeIoValidator.Verification.PcieIde.Mapping
import TeeIoValidator.Verification.PcieIde.Registers
import TeeIoValidator.Verification.PcieIde.Slots
import TeeIoValidator.Verification.PcieIde.StreamRegisters
import TeeIoValidator.Verification.PcieIdeTest.Messages
import TeeIoValidator.Verification.PcieIdeTest.Runs
import TeeIoValidator.Verification.PcieIdeTest.Selection
import TeeIoValidator.Verification.PcieIdeTest.StreamOff
import TeeIoValidator.Verification.PcieIdeTest.Streams
import TeeIoValidator.Verification.PortQuery.Correctness
import TeeIoValidator.Verification.PortQuery.CxlRuns
import TeeIoValidator.Verification.PortQuery.IdeCorrectness
import TeeIoValidator.Verification.PortQuery.Results
import TeeIoValidator.Verification.PortQuery.Runs
import TeeIoValidator.Verification.Report.Delivery
import TeeIoValidator.Verification.Report.Rounds
import TeeIoValidator.Verification.Report.Safety
import TeeIoValidator.Verification.Report.Serving
import TeeIoValidator.Verification.Results.Printing
import TeeIoValidator.Verification.Results.Steps
import TeeIoValidator.Verification.Results.Totals
import TeeIoValidator.Verification.Runner
import TeeIoValidator.Verification.SpdmTestCases
import TeeIoValidator.Verification.Stopping
import TeeIoValidator.Verification.Suite.Events
import TeeIoValidator.Verification.Suite.Execution
import TeeIoValidator.Verification.Suite.Reports
import TeeIoValidator.Verification.Suite.Returns
import TeeIoValidator.Verification.Tdisp.Cleanup
import TeeIoValidator.Verification.Tdisp.Conformance
import TeeIoValidator.Verification.Tdisp.Execution
import TeeIoValidator.Verification.Tdisp.Negotiation
import TeeIoValidator.Verification.Tdisp.ReportStructure
import TeeIoValidator.Verification.Tdisp.Requests
import TeeIoValidator.Verification.Tdisp.Session
import TeeIoValidator.Verification.Tdisp.Setup
import TeeIoValidator.Verification.Tdisp.Stream
import TeeIoValidator.Verification.Tdisp.Verdict
import TeeIoValidator.Verification.TestData.Blocks
import TeeIoValidator.Verification.TestData.Lifecycle
import TeeIoValidator.Verification.TestData.Prepare
import TeeIoValidator.Verification.TestData.Run
import TeeIoValidator.Verification.Tsp.Capabilities
import TeeIoValidator.Verification.Tsp.Cases
import TeeIoValidator.Verification.Tsp.Configuration
import TeeIoValidator.Verification.Tsp.Verdicts
