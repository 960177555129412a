import AeroGateway.Forwarding.Mbuf
import AeroGateway.Forwarding.Loop
import AeroGateway.Forwarding.Classifier
import AeroGateway.Network.Client
import AeroGateway.Network.Inbound
import AeroGateway.Network.Reconnect
import AeroGateway.Network.Close
import AeroGateway.Network.Live
import AeroGateway.Network.Backoff
import AeroGateway.Network.MicroTcp
import AeroGateway.Exchange.Subscription
import AeroGateway.Market.Types
import AeroGateway.Market.Json
import AeroGateway.Market.Numeric
import AeroGateway.Market.OrderBook
import AeroGateway.Market.JsonParser
import AeroGateway.Exchange.Adapter
import AeroGateway.Exchange.ParserAgreement
import AeroGateway.Exchange.AdapterShape
import AeroGateway.Feed.Udp
import AeroGateway.Legacy.WebSocketClient
import AeroGateway.Legacy.Restore
import AeroGateway.Legacy.Frame
import AeroGateway.Config.Symbols
import AeroGateway.Market.BookMerge
import AeroGateway.Metrics.LatencyHistogram
import AeroGateway.Legacy.TlsRecords
import AeroGateway.Legacy.ReceivePath
import AeroGateway.Exchange.Dispatch
import AeroGateway.Parser.MarketData
import AeroGateway.Legacy.Connection
import AeroGateway.Config.Load
import AeroGateway.Feed.Address
import AeroGateway.Feed.Publisher
import AeroGateway.Forwarding.Ports
