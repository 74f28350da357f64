import Mathlib.Data.Int.Notation
import OpenframeAdapters.Db.Factory

/-!
# The factories of the thirteen adapters

What each `connection.py` puts in the places of the shape that `Factory` describes.
The settings hold the fields the factory reads. `F` stands for Python's floats, compared
by value. A driver that is called with keyword arguments is called with a tuple here, in
the order of the source.

`get_mongo_client` has no await, so it is not one of them.
-/

namespace OpenframeAdapters.Db

open Python OpenframeAdapters.Core

/-- `except asyncio.TimeoutError`, the first clause of every factory. -/
def timedOut : List Cls × (PyExc → AdapterError) :=
  ([.timeoutError], fun exc => ⟨.timeout, "connect", some exc⟩)

/-- A clause that raises `AdapterConnectionError`. -/
def cannotConnect (names : List Cls) : List Cls × (PyExc → AdapterError) :=
  (names, fun exc => ⟨.connection, "connect", some exc⟩)

/-- A clause that raises `AdapterConfigurationError` for `operation="init"`. -/
def invalid (names : List Cls) : List Cls × (PyExc → AdapterError) :=
  (names, fun exc => ⟨.configuration, "init", some exc⟩)

/-! ### Redis and FalkorDB -/

/-- `RedisSettings`. -/
structure RedisSettings (F : Type) where
  /-- `redis_url`. -/
  url : String
  /-- `redis_max_connections`. -/
  maxConnections : ℤ
  /-- `redis_socket_timeout`. -/
  socketTimeout : F
  /-- `redis_socket_connect_timeout`. -/
  socketConnectTimeout : F

/-- `get_redis_client`. -/
def getRedisClient (F : Type) :
    Factory (RedisSettings F) (String × ℤ × F × F) (String × ℤ × F × F) where
  cacheKey st := (st.url, st.maxConnections, st.socketTimeout, st.socketConnectTimeout)
  arguments st := (st.url, st.maxConnections, st.socketTimeout, st.socketConnectTimeout)
  initErrors := redisErrors
  connectErrors := redisErrors
  making := .probed []
  closing := .popFirst
  quietShutdown := false
where
  /-- The clauses around `from_url`, `Redis` and `ping`. -/
  redisErrors : Clauses Cls AdapterError :=
    [timedOut, cannotConnect [.redisAuthenticationError], cannotConnect [.redisConnectionError],
      ([.redisResponseError], fun _ => ⟨.configuration, "connect", none⟩)]

/-- `FalkorDBSettings`. -/
structure FalkorDBSettings (F : Type) where
  /-- `falkordb_host`. -/
  host : String
  /-- `falkordb_port`. -/
  port : ℤ
  /-- `falkordb_password`. -/
  password : Option String
  /-- `falkordb_ssl`. -/
  ssl : Bool
  /-- `falkordb_socket_timeout`. -/
  socketTimeout : F
  /-- `falkordb_socket_connect_timeout`. -/
  socketConnectTimeout : F

/-- `get_falkordb_client`. -/
def getFalkordbClient (F : Type) : Factory (FalkorDBSettings F)
    (String × ℤ × Option String × Bool × F × F) (String × ℤ × Option String × Bool × F × F) where
  cacheKey st :=
    (st.host, st.port, st.password, st.ssl, st.socketTimeout, st.socketConnectTimeout)
  arguments st :=
    (st.host, st.port, st.password, st.ssl, st.socketTimeout, st.socketConnectTimeout)
  initErrors := falkordbErrors
  connectErrors := falkordbErrors
  making := .probed []
  closing := .popFirst
  quietShutdown := false
where
  /-- The clauses around `FalkorDB` and `ping`. -/
  falkordbErrors : Clauses Cls AdapterError :=
    [timedOut, cannotConnect [.redisAuthenticationError], cannotConnect [.redisConnectionError]]

/-! ### The pools of `asyncpg`: Postgres and CockroachDB -/

/-- `PostgresSettings`, and `CockroachdbSettings`. -/
structure PostgresSettings (F : Type) where
  /-- `database_url`, or `cockroachdb_url`. -/
  url : String
  /-- `pool_size`. -/
  poolSize : ℤ
  /-- `pool_max_inactive_conn_lifetime`. -/
  poolMaxInactiveConnLifetime : F
  /-- `pool_command_timeout`. -/
  poolCommandTimeout : F
  /-- `pool_max_queries`. -/
  poolMaxQueries : ℤ

/-- `get_postgres_pool`. `pool_size` is both `min_size` and `max_size`. -/
def getPostgresPool (F : Type) :
    Factory (PostgresSettings F) (String × ℤ × F × F × ℤ) (String × ℤ × ℤ × F × F × ℤ) where
  cacheKey st := (st.url, st.poolSize, st.poolMaxInactiveConnLifetime, st.poolCommandTimeout,
    st.poolMaxQueries)
  arguments st := (st.url, st.poolSize, st.poolSize, st.poolMaxInactiveConnLifetime,
    st.poolCommandTimeout, st.poolMaxQueries)
  initErrors := asyncpgErrors
  connectErrors := asyncpgErrors
  making := .awaited
  closing := .popAfter
  quietShutdown := false
where
  /-- The clauses around `create_pool`. -/
  asyncpgErrors : Clauses Cls AdapterError :=
    [timedOut, invalid [.invalidCatalogNameError],
      cannotConnect [.invalidPasswordError, .cannotConnectNowError, .tooManyConnectionsError,
        .osError]]

/-- `get_cockroachdb_pool`. -/
def getCockroachdbPool (F : Type) :
    Factory (PostgresSettings F) (String × ℤ × F × F × ℤ) (String × ℤ × ℤ × F × F × ℤ) :=
  getPostgresPool F

/-! ### The pools of `aiomysql`: MySQL and MariaDB -/

/-- `MySQLSettings`, and `MariadbSettings`. -/
structure MySQLSettings (F : Type) where
  /-- `database_url`. -/
  url : String
  /-- `pool_size`. -/
  poolSize : ℤ
  /-- `pool_recycle`. -/
  poolRecycle : F
  /-- `pool_connect_timeout`. -/
  poolConnectTimeout : F

/-- `get_mysql_pool`. The keyword arguments that `_parse_dsn` makes of the URL stand as the URL;
`_parse_dsn` is called before the `try`. -/
def getMysqlPool (F : Type) :
    Factory (MySQLSettings F) (String × ℤ × F × F) (ℤ × ℤ × F × F × String) where
  cacheKey st := (st.url, st.poolSize, st.poolRecycle, st.poolConnectTimeout)
  arguments st := (st.poolSize, st.poolSize, st.poolRecycle, st.poolConnectTimeout, st.url)
  connectErrors := [timedOut,
    ([.mysqlOperationalError], fun exc =>
      if exc.code = some 1049 then ⟨.configuration, "init", some exc⟩
      else ⟨.connection, "connect", some exc⟩),
    cannotConnect [.osError]]
  making := .awaited
  closing := .popAfter
  quietShutdown := false

/-- `get_mariadb_pool`. -/
def getMariadbPool (F : Type) :
    Factory (MySQLSettings F) (String × ℤ × F × F) (ℤ × ℤ × F × F × String) :=
  getMysqlPool F

/-! ### Oracle -/

/-- `OracleSettings`. -/
structure OracleSettings where
  /-- `oracle_dsn`. -/
  dsn : String
  /-- `pool_min`. -/
  poolMin : ℤ
  /-- `pool_max`. -/
  poolMax : ℤ
  /-- `pool_increment`. -/
  poolIncrement : ℤ
  /-- `pool_timeout`. -/
  poolTimeout : ℤ

/-- `_classify_connect_error(exc) == "config"`. -/
def classifiesAsConfig (exc : PyExc) : Bool :=
  exc.isa .oracleError && ("DPY-4".isPrefixOf exc.text || "DPY-2".isPrefixOf exc.text)

/-- `get_oracle_pool`. -/
def getOraclePool : Factory OracleSettings (String × ℤ × ℤ × ℤ × ℤ) (String × ℤ × ℤ × ℤ × ℤ) where
  cacheKey st := (st.dsn, st.poolMin, st.poolMax, st.poolIncrement, st.poolTimeout)
  arguments st := (st.dsn, st.poolMin, st.poolMax, st.poolIncrement, st.poolTimeout)
  initErrors := oracledbErrors
  connectErrors := oracledbErrors
  making := .awaited
  closing := .popAfter
  quietShutdown := false
where
  /-- The clauses around `create_pool_async`. -/
  oracledbErrors : Clauses Cls AdapterError :=
    [timedOut,
      ([.oracleError, .osError], fun exc =>
        if classifiesAsConfig exc then ⟨.configuration, "init", some exc⟩
        else ⟨.connection, "connect", some exc⟩)]

/-! ### Cassandra -/

/-- `CassandraSettings`. -/
structure CassandraSettings where
  /-- `cassandra_contact_points`. -/
  contactPoints : List String
  /-- `cassandra_port`. -/
  port : ℤ
  /-- `cassandra_keyspace`. -/
  keyspace : Option String
  /-- `cassandra_username`. -/
  username : Option String
  /-- `cassandra_password`. -/
  password : Option String
  /-- `cassandra_local_dc`. -/
  localDc : Option String
  /-- `cassandra_protocol_version`. -/
  protocolVersion : Option ℤ
  /-- `cassandra_core_connections_per_host`. -/
  coreConnectionsPerHost : ℤ

/-- `_SessionCacheKey`. -/
structure SessionCacheKey where
  /-- `tuple(cassandra_contact_points)`. -/
  contactPoints : List String
  /-- `cassandra_port`. -/
  port : ℤ
  /-- `cassandra_keyspace`. -/
  keyspace : Option String
  /-- `cassandra_username`. -/
  username : Option String
  /-- `cassandra_local_dc`. -/
  localDc : Option String
  /-- `cassandra_protocol_version`. -/
  protocolVersion : Option ℤ
  /-- `cassandra_core_connections_per_host`. -/
  coreConnectionsPerHost : ℤ
  deriving DecidableEq

/-- What `_build_session` calls the driver with. -/
structure CassandraArguments where
  /-- `Cluster(contact_points=…)`. -/
  contactPoints : List String
  /-- `Cluster(port=…)`. -/
  port : ℤ
  /-- `Cluster(auth_provider=PlainTextAuthProvider(username, password))`. -/
  authProvider : Option (String × String)
  /-- `Cluster(protocol_version=…)`, where it is given. -/
  protocolVersion : Option ℤ
  /-- `cluster.set_core_connections_per_host(HostDistance.LOCAL, …)`. -/
  coreConnectionsPerHost : ℤ
  /-- `cluster.connect(…)`. -/
  keyspace : Option String
  deriving DecidableEq

/-- `get_cassandra_session`, and `_build_session`. -/
def getCassandraSession : Factory CassandraSettings SessionCacheKey CassandraArguments where
  cacheKey st := ⟨st.contactPoints, st.port, st.keyspace, st.username, st.localDc,
    st.protocolVersion, st.coreConnectionsPerHost⟩
  arguments st :=
    { contactPoints := st.contactPoints
      port := st.port
      authProvider := st.username.map fun username => (username, st.password.getD "")
      protocolVersion := st.protocolVersion
      coreConnectionsPerHost := st.coreConnectionsPerHost
      keyspace := st.keyspace }
  refuses st := if st.contactPoints.isEmpty then some ⟨.configuration, "init", none⟩ else none
  connectErrors := [timedOut, cannotConnect [.noHostAvailable],
    cannotConnect [.cassandraAuthenticationFailed], cannotConnect [.osError]]
  making := .executor
  closing := .popAfter
  quietShutdown := true

/-! ### The vector stores: Qdrant, Milvus and Chroma -/

/-- `QdrantSettings`. -/
structure QdrantSettings where
  /-- `qdrant_url`. -/
  url : String
  /-- `qdrant_api_key`. -/
  apiKey : Option String
  /-- `qdrant_prefer_grpc`. -/
  preferGrpc : Bool
  /-- `qdrant_https`. -/
  https : Option Bool

/-- `get_qdrant_client`. -/
def getQdrantClient : Factory QdrantSettings (String × Option String × Bool × Option Bool)
    (String × Option String × Bool × Option Bool) where
  cacheKey st := (st.url, st.apiKey, st.preferGrpc, st.https)
  arguments st := (st.url, st.apiKey, st.preferGrpc, st.https)
  initErrors := [invalid [.valueError]]
  connectErrors := [timedOut, cannotConnect [.qdrantResponseHandlingException],
    ([.qdrantUnexpectedResponse], fun exc =>
      if exc.code.any fun status => 400 ≤ status ∧ status < 500 then
        ⟨.configuration, "connect", some exc⟩
      else ⟨.connection, "connect", some exc⟩)]
  making := .probed []
  closing := .popAfter
  quietShutdown := true

/-- `MilvusSettings`. -/
structure MilvusSettings where
  /-- `milvus_uri`. -/
  uri : String
  /-- `milvus_token`. -/
  token : String
  /-- `milvus_db_name`. -/
  dbName : String

/-- `get_milvus_client`. -/
def getMilvusClient : Factory MilvusSettings (String × String × String)
    (String × String × String) where
  cacheKey st := (st.uri, st.token, st.dbName)
  arguments st := (st.uri, st.token, st.dbName)
  initErrors := [invalid [.milvusException]]
  connectErrors := [timedOut, cannotConnect [.milvusException]]
  making := .probed []
  closing := .popAfter
  quietShutdown := true

/-- `ChromaDBSettings`. -/
structure ChromaDBSettings where
  /-- `chroma_host`. -/
  host : String
  /-- `chroma_port`. -/
  port : ℤ
  /-- `chroma_ssl`. -/
  ssl : Bool
  /-- `chroma_tenant`. -/
  tenant : String
  /-- `chroma_database`. -/
  database : String

/-- `get_chromadb_client`. -/
def getChromadbClient : Factory ChromaDBSettings (String × ℤ × Bool × String × String)
    (String × ℤ × Bool × String × String) where
  cacheKey st := (st.host, st.port, st.ssl, st.tenant, st.database)
  arguments st := (st.host, st.port, st.ssl, st.tenant, st.database)
  connectErrors := [timedOut,
    ([.httpxTimeoutException], fun exc => ⟨.timeout, "connect", some exc⟩),
    cannotConnect [.httpxTransportError]]
  making := .awaited
  closing := .keep
  quietShutdown := false

/-! ### InfluxDB -/

/-- `InfluxDBSettings`. -/
structure InfluxDBSettings where
  /-- `influxdb_url`. -/
  url : String
  /-- `influxdb_token`. -/
  token : String
  /-- `influxdb_org`. -/
  org : String
  /-- `client_timeout_ms`. -/
  clientTimeoutMs : ℤ

/-- `get_influxdb_client`. Each of its clauses closes the client first. -/
def getInfluxdbClient : Factory InfluxDBSettings (String × String × String × ℤ)
    (String × String × String × ℤ) where
  cacheKey st := (st.url, st.token, st.org, st.clientTimeoutMs)
  arguments st := (st.url, st.token, st.org, st.clientTimeoutMs)
  connectErrors := [timedOut,
    ([.apiException], fun exc =>
      if exc.code = some 401 ∨ exc.code = some 403 then ⟨.configuration, "init", some exc⟩
      else ⟨.connection, "connect", some exc⟩),
    cannotConnect [.aiohttpClientError, .osError]]
  making := .probed [.timeoutError, .apiException, .aiohttpClientError, .osError]
  closing := .popAfter
  quietShutdown := false

/-! ### DynamoDB -/

/-- `DynamoDBSettings`. -/
structure DynamoDBSettings where
  /-- `aws_region`. -/
  awsRegion : String
  /-- `dynamodb_table_name`. -/
  dynamodbTableName : String
  /-- `endpoint_url`. -/
  endpointUrl : Option String
  /-- `aws_access_key_id`. -/
  awsAccessKeyId : Option String
  /-- `aws_secret_access_key`. -/
  awsSecretAccessKey : Option String
  /-- `aws_session_token`. -/
  awsSessionToken : Option String

/-- What `get_dynamodb_table` calls the driver with. -/
structure DynamoDBArguments where
  /-- `resource(region_name=…)`. -/
  regionName : String
  /-- `resource(endpoint_url=…)`, where it is given. -/
  endpointUrl : Option String
  /-- `resource(aws_access_key_id=…)`, where it is given. -/
  awsAccessKeyId : Option String
  /-- `resource(aws_secret_access_key=…)`, where it is given. -/
  awsSecretAccessKey : Option String
  /-- `resource(aws_session_token=…)`, where it is given. -/
  awsSessionToken : Option String
  /-- `resource.Table(…)`. -/
  table : String
  deriving DecidableEq

/-- `get_dynamodb_table`, and `close_dynamodb_table`. -/
def getDynamodbTable : Factory DynamoDBSettings
    (String × Option String × String × Option String × Option String × Option String)
    DynamoDBArguments where
  cacheKey st := (st.awsRegion, st.endpointUrl, st.dynamodbTableName, st.awsAccessKeyId,
    st.awsSecretAccessKey, st.awsSessionToken)
  arguments st :=
    { regionName := st.awsRegion
      endpointUrl := st.endpointUrl
      awsAccessKeyId := st.awsAccessKeyId
      awsSecretAccessKey := st.awsSecretAccessKey
      awsSessionToken := st.awsSessionToken
      table := st.dynamodbTableName }
  connectErrors := [timedOut,
    invalid [.noCredentialsError, .partialCredentialsError, .noRegionError],
    cannotConnect [.endpointConnectionError, .connectionError, .osError]]
  making := .awaited
  closing := .popFirst
  quietShutdown := false

/-! ### Servers on this host -/

/-- Settings of a Postgres adapter. -/
def postgresLocal : PostgresSettings ℕ := ⟨"postgresql://localhost/app", 10, 300, 60, 50000⟩

/-- Settings of a MySQL adapter. -/
def mysqlLocal : MySQLSettings ℕ := ⟨"mysql://localhost/app", 10, 300, 10⟩

/-- Settings of an Oracle adapter. -/
def oracleLocal : OracleSettings := ⟨"localhost/FREEPDB1", 1, 10, 1, 300⟩

/-- Settings of a Qdrant adapter. -/
def qdrantLocal : QdrantSettings := ⟨"http://localhost:6333", none, false, none⟩

/-- Settings of a Milvus adapter. -/
def milvusLocal : MilvusSettings := ⟨"http://localhost:19530", "", "default"⟩

/-- Settings of a Chroma adapter. -/
def chromadbLocal : ChromaDBSettings := ⟨"localhost", 8000, false, "default_tenant", "default_database"⟩

/-- Settings of a DynamoDB adapter. -/
def dynamodbLocal : DynamoDBSettings :=
  ⟨"eu-central-1", "users", some "http://localhost:8000", none, none, none⟩

end OpenframeAdapters.Db
