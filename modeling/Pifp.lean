import Pifp.Types
import Pifp.Host
import Pifp.Storage
import Pifp.Rbac
import Pifp.Protocol
import Pifp.System
import Pifp.Registry
import Pifp.Lifecycle
import Pifp.Funds
import Pifp.Published
import Pifp.Refinement
import Pifp.Errors
import Pifp.Rent
import Pifp.Indexer.Json
import Pifp.Indexer.Config
import Pifp.Indexer.JsonRoundTrip
import Pifp.Indexer.Events
import Pifp.Indexer.Rpc
import Pifp.Indexer.Calendar
import Pifp.Indexer.Notifications
import Pifp.Indexer.Db
import Pifp.Indexer.Poll
import Pifp.Indexer.Fetch
import Pifp.Indexer.Restart
import Pifp.Indexer.Ingestion
import Pifp.Indexer.Pipeline
import Pifp.Indexer.Progress
import Pifp.Indexer.Api
