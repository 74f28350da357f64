import OpenframeAdapters.Python.Atomic
import OpenframeAdapters.Python.ContextVar
import OpenframeAdapters.Python.Coroutine
import OpenframeAdapters.Python.Dict
import OpenframeAdapters.Python.Exceptions
import OpenframeAdapters.Python.History
import OpenframeAdapters.Python.Loop
import OpenframeAdapters.Python.Moments
import OpenframeAdapters.Python.Regex
import OpenframeAdapters.Python.Sequence
import OpenframeAdapters.Python.Session
import OpenframeAdapters.Python.Simulation
import OpenframeAdapters.Python.Tasks
import OpenframeAdapters.Python.Text
import OpenframeAdapters.Python.Url
import OpenframeAdapters.Python.World
import OpenframeAdapters.Sql.Reader
import OpenframeAdapters.Sql.Table
import OpenframeAdapters.Core.Exceptions
import OpenframeAdapters.Queue.Batch
import OpenframeAdapters.Queue.Batches
import OpenframeAdapters.Queue.Broker
import OpenframeAdapters.Queue.Close
import OpenframeAdapters.Queue.CloseRule
import OpenframeAdapters.Queue.Delivery
import OpenframeAdapters.Queue.Isolation
import OpenframeAdapters.Queue.Journal
import OpenframeAdapters.Queue.Kafka.AtLeastOnce
import OpenframeAdapters.Queue.Kafka.Close
import OpenframeAdapters.Queue.Kafka.Consumer
import OpenframeAdapters.Queue.Kafka.Groups
import OpenframeAdapters.Queue.Kafka.Poison
import OpenframeAdapters.Queue.Kafka.Producer
import OpenframeAdapters.Queue.Kafka.Reading
import OpenframeAdapters.Queue.Kafka.Sessions
import OpenframeAdapters.Queue.Nats.Close
import OpenframeAdapters.Queue.Nats.Consumer
import OpenframeAdapters.Queue.Nats.Producer
import OpenframeAdapters.Queue.Plugin
import OpenframeAdapters.Queue.Plugins
import OpenframeAdapters.Queue.Producer
import OpenframeAdapters.Queue.Rabbitmq.Close
import OpenframeAdapters.Queue.Rabbitmq.Consumer
import OpenframeAdapters.Queue.Rabbitmq.Producer
import OpenframeAdapters.Queue.Rabbitmq.Sessions
import OpenframeAdapters.Queue.Settlement
import OpenframeAdapters.Queue.Startup
import OpenframeAdapters.Queue.TraceContext
import OpenframeAdapters.Db.Agreement
import OpenframeAdapters.Db.AllOrNothing
import OpenframeAdapters.Db.Books
import OpenframeAdapters.Db.CacheKey
import OpenframeAdapters.Db.Cassandra.Bridge
import OpenframeAdapters.Db.Cassandra.Concurrent
import OpenframeAdapters.Db.Cassandra.Paging
import OpenframeAdapters.Db.Cassandra.Repository
import OpenframeAdapters.Db.Cassandra.Server
import OpenframeAdapters.Db.Chromadb.Columns
import OpenframeAdapters.Db.Chromadb.Concurrent
import OpenframeAdapters.Db.Chromadb.ReadYourWrite
import OpenframeAdapters.Db.Chromadb.Repository
import OpenframeAdapters.Db.Chromadb.Search
import OpenframeAdapters.Db.Chromadb.Server
import OpenframeAdapters.Db.CloseCache
import OpenframeAdapters.Db.Concurrent
import OpenframeAdapters.Db.CreateNew
import OpenframeAdapters.Db.Dynamodb.Paging
import OpenframeAdapters.Db.Dynamodb.Refinement
import OpenframeAdapters.Db.Dynamodb.Repository
import OpenframeAdapters.Db.Dynamodb.Server
import OpenframeAdapters.Db.ErrorTranslation
import OpenframeAdapters.Db.Escape
import OpenframeAdapters.Db.Factories
import OpenframeAdapters.Db.Factory
import OpenframeAdapters.Db.Falkordb.Ids
import OpenframeAdapters.Db.Falkordb.Label
import OpenframeAdapters.Db.Falkordb.Refinement
import OpenframeAdapters.Db.Falkordb.Repository
import OpenframeAdapters.Db.Falkordb.Server
import OpenframeAdapters.Db.Influxdb.Escaping
import OpenframeAdapters.Db.Influxdb.Paging
import OpenframeAdapters.Db.Influxdb.Points
import OpenframeAdapters.Db.Influxdb.ReadYourWrite
import OpenframeAdapters.Db.Influxdb.Repository
import OpenframeAdapters.Db.Linearisable
import OpenframeAdapters.Db.ManyCallers
import OpenframeAdapters.Db.Merging
import OpenframeAdapters.Db.Milvus.Concurrent
import OpenframeAdapters.Db.Milvus.Repository
import OpenframeAdapters.Db.Milvus.Search
import OpenframeAdapters.Db.Milvus.Server
import OpenframeAdapters.Db.Mongo.Aliasing
import OpenframeAdapters.Db.Mongo.Ids
import OpenframeAdapters.Db.Mongo.Mirror
import OpenframeAdapters.Db.Mongo.Repository
import OpenframeAdapters.Db.Mongo.Server
import OpenframeAdapters.Db.Mysql.Dsn
import OpenframeAdapters.Db.Mysql.Repository
import OpenframeAdapters.Db.Mysql.Reread
import OpenframeAdapters.Db.Mysql.Server
import OpenframeAdapters.Db.Mysql.Transactions
import OpenframeAdapters.Db.OneClient
import OpenframeAdapters.Db.Operations
import OpenframeAdapters.Db.Oracle.ReadModifyWrite
import OpenframeAdapters.Db.Oracle.Repository
import OpenframeAdapters.Db.Oracle.Server
import OpenframeAdapters.Db.Oracle.Transactions
import OpenframeAdapters.Db.Plugin
import OpenframeAdapters.Db.Postgres.Repository
import OpenframeAdapters.Db.Postgres.Server
import OpenframeAdapters.Db.Qdrant.Concurrent
import OpenframeAdapters.Db.Qdrant.Refinement
import OpenframeAdapters.Db.Qdrant.Repository
import OpenframeAdapters.Db.Qdrant.Search
import OpenframeAdapters.Db.Qdrant.Server
import OpenframeAdapters.Db.Redis.Isolation
import OpenframeAdapters.Db.Redis.Paging
import OpenframeAdapters.Db.Redis.Refinement
import OpenframeAdapters.Db.Redis.Repository
import OpenframeAdapters.Db.Redis.Server
import OpenframeAdapters.Db.Repository
import OpenframeAdapters.Db.Rows
import OpenframeAdapters.Db.Server
import OpenframeAdapters.Db.Shutdown
import OpenframeAdapters.Db.Single
import OpenframeAdapters.Db.Transactions
import OpenframeAdapters.Classification
import OpenframeAdapters.Cypher.Lexer
import OpenframeAdapters.Flux.Lexer
import OpenframeAdapters.Scripts.MetaExtras
import OpenframeAdapters.Store.Keyed
import OpenframeAdapters.Store.Listing
import OpenframeAdapters.Store.Log
import OpenframeAdapters.Store.Pool
import OpenframeAdapters.Store.Rank
import OpenframeAdapters.Store.Transactions
