import OpenframeAdapters.Python.Exceptions

/-!
# The exceptions of the adapters

The exception classes that the adapters name in their `except` clauses and
`isinstance` tests, with the bases the drivers declare them with, and the
`AdapterError` hierarchy of `openframe-core` that driver exceptions are
translated to.

A class that no adapter names is not listed: its instances are the exceptions
that are instances of the listed bases only. The texts of the errors are left
out, since no modelled function reads them.
-/

namespace OpenframeAdapters.Core

open Python

/-- The exception classes the adapters name. -/
inductive Cls where
  /-- `Exception`; an `asyncio.CancelledError` is not one. -/
  | exception
  /-- `OSError`. -/
  | osError
  /-- `ConnectionError`. -/
  | connectionError
  /-- `TimeoutError`, which `asyncio.TimeoutError` is an alias of. -/
  | timeoutError
  /-- `ValueError`. -/
  | valueError
  /-- `json.JSONDecodeError`. -/
  | jsonDecodeError
  /-- `UnicodeDecodeError`. -/
  | unicodeDecodeError
  /-- `RuntimeError`. -/
  | runtimeError
  /-- `TypeError`. -/
  | typeError
  /-- `AttributeError`. -/
  | attributeError
  /-- `UnboundLocalError`. -/
  | unboundLocalError
  /-- `aiokafka.errors.KafkaError`. -/
  | kafkaError
  /-- `aiokafka.errors.KafkaConnectionError`. -/
  | kafkaConnectionError
  /-- `nats.errors.Error`. -/
  | natsError
  /-- `nats.errors.NoServersError`. -/
  | natsNoServersError
  /-- `nats.errors.ConnectionClosedError`. -/
  | natsConnectionClosedError
  /-- `nats.errors.ConnectionDrainingError`. -/
  | natsConnectionDrainingError
  /-- `nats.errors.ConnectionReconnectingError`. -/
  | natsConnectionReconnectingError
  /-- `nats.errors.StaleConnectionError`. -/
  | natsStaleConnectionError
  /-- `nats.errors.OutboundBufferLimitError`. -/
  | natsOutboundBufferLimitError
  /-- `nats.errors.TimeoutError`, a `TimeoutError` as well. -/
  | natsTimeoutError
  /-- `nats.js.errors.BadRequestError`. -/
  | natsBadRequestError
  /-- `aio_pika.exceptions.AMQPError`. -/
  | amqpError
  /-- `aio_pika.exceptions.AMQPConnectionError`, a `ConnectionError` as well. -/
  | amqpConnectionError
  /-- `redis.exceptions.RedisError`. -/
  | redisError
  /-- `redis.exceptions.ConnectionError`. -/
  | redisConnectionError
  /-- `redis.exceptions.AuthenticationError`. -/
  | redisAuthenticationError
  /-- `redis.exceptions.TimeoutError`. -/
  | redisTimeoutError
  /-- `redis.exceptions.ResponseError`. -/
  | redisResponseError
  /-- `redis.exceptions.DataError`. -/
  | redisDataError
  /-- `asyncpg.PostgresError`. -/
  | postgresError
  /-- `asyncpg.InterfaceError`. -/
  | postgresInterfaceError
  /-- `asyncpg.InvalidCatalogNameError`. -/
  | invalidCatalogNameError
  /-- `asyncpg.InvalidPasswordError`. -/
  | invalidPasswordError
  /-- `asyncpg.CannotConnectNowError`. -/
  | cannotConnectNowError
  /-- `asyncpg.TooManyConnectionsError`. -/
  | tooManyConnectionsError
  /-- `asyncpg.ConnectionDoesNotExistError`. -/
  | connectionDoesNotExistError
  /-- `asyncpg.ConnectionFailureError`. -/
  | connectionFailureError
  /-- `httpx.TransportError`. -/
  | httpxTransportError
  /-- `httpx.TimeoutException`. -/
  | httpxTimeoutException
  /-- `chromadb.errors.ChromaError`. -/
  | chromaError
  /-- `influxdb_client.rest.ApiException`. -/
  | apiException
  /-- `aiohttp.ClientError`. -/
  | aiohttpClientError
  /-- `pymysql.err.MySQLError`. -/
  | mysqlError
  /-- `pymysql.err.OperationalError`. -/
  | mysqlOperationalError
  /-- `pymysql.err.InterfaceError`. -/
  | mysqlInterfaceError
  /-- `oracledb.Error`. -/
  | oracleError
  /-- `oracledb.DatabaseError`. -/
  | oracleDatabaseError
  /-- `oracledb.OperationalError`. -/
  | oracleOperationalError
  /-- `oracledb.InterfaceError`. -/
  | oracleInterfaceError
  /-- `cassandra.cluster.NoHostAvailable`. -/
  | noHostAvailable
  /-- `cassandra.AuthenticationFailed`. -/
  | cassandraAuthenticationFailed
  /-- `cassandra.cluster.ConnectionException`. -/
  | cassandraConnectionException
  /-- `cassandra.Unavailable`. -/
  | cassandraUnavailable
  /-- `cassandra.OperationTimedOut`. -/
  | cassandraOperationTimedOut
  /-- `cassandra.ReadTimeout`. -/
  | cassandraReadTimeout
  /-- `cassandra.WriteTimeout`. -/
  | cassandraWriteTimeout
  /-- `qdrant_client.http.exceptions.ResponseHandlingException`. -/
  | qdrantResponseHandlingException
  /-- `qdrant_client.http.exceptions.UnexpectedResponse`. -/
  | qdrantUnexpectedResponse
  /-- `pymilvus.exceptions.MilvusException`. -/
  | milvusException
  /-- `pymongo.errors.PyMongoError`. -/
  | pymongoError
  /-- `pymongo.errors.ConnectionFailure`. -/
  | pymongoConnectionFailure
  /-- `pymongo.errors.ServerSelectionTimeoutError`. -/
  | pymongoServerSelectionTimeoutError
  /-- `pymongo.errors.OperationFailure`. -/
  | pymongoOperationFailure
  /-- `pymongo.errors.WriteError`. -/
  | pymongoWriteError
  /-- `pymongo.errors.DuplicateKeyError`. -/
  | pymongoDuplicateKeyError
  /-- `pymongo.errors.ConfigurationError`. -/
  | pymongoConfigurationError
  /-- `botocore.exceptions.BotoCoreError`. -/
  | botoCoreError
  /-- `botocore.exceptions.ClientError`. -/
  | botoClientError
  /-- `botocore.exceptions.NoCredentialsError`. -/
  | noCredentialsError
  /-- `botocore.exceptions.PartialCredentialsError`. -/
  | partialCredentialsError
  /-- `botocore.exceptions.NoRegionError`. -/
  | noRegionError
  /-- `botocore.exceptions.EndpointConnectionError`. -/
  | endpointConnectionError
  deriving DecidableEq

/-- The declared bases, of those that are listed. -/
instance : ExcClasses Cls where
  bases
    | .exception => []
    | .connectionError | .timeoutError => [.osError]
    | .jsonDecodeError | .unicodeDecodeError => [.valueError]
    | .kafkaError => [.runtimeError]
    | .kafkaConnectionError => [.kafkaError]
    | .natsNoServersError | .natsConnectionClosedError | .natsConnectionDrainingError
    | .natsConnectionReconnectingError | .natsStaleConnectionError
    | .natsOutboundBufferLimitError | .natsBadRequestError => [.natsError]
    | .natsTimeoutError => [.natsError, .timeoutError]
    | .amqpConnectionError => [.amqpError, .connectionError]
    | .redisConnectionError | .redisTimeoutError | .redisResponseError | .redisDataError =>
      [.redisError]
    | .redisAuthenticationError => [.redisConnectionError]
    | .invalidCatalogNameError | .invalidPasswordError | .cannotConnectNowError
    | .tooManyConnectionsError | .connectionDoesNotExistError | .connectionFailureError =>
      [.postgresError]
    | .httpxTimeoutException => [.httpxTransportError]
    | .mysqlOperationalError | .mysqlInterfaceError => [.mysqlError]
    | .oracleDatabaseError | .oracleInterfaceError => [.oracleError]
    | .oracleOperationalError => [.oracleDatabaseError]
    | .pymongoConnectionFailure | .pymongoOperationFailure | .pymongoConfigurationError =>
      [.pymongoError]
    | .pymongoServerSelectionTimeoutError => [.pymongoConnectionFailure]
    | .pymongoWriteError => [.pymongoOperationFailure]
    | .pymongoDuplicateKeyError => [.pymongoWriteError]
    | .noCredentialsError | .partialCredentialsError | .noRegionError | .endpointConnectionError =>
      [.botoCoreError]
    | _ => [.exception]

/-- An exception raised by a driver, by Python or by a caller's code. -/
abbrev PyExc := Exc Cls

/-- The subclasses of `AdapterError`. -/
inductive AdapterErrorKind where
  /-- `AdapterConnectionError`. -/
  | connection
  /-- `AdapterConfigurationError`. -/
  | configuration
  /-- `AdapterQueryError`. -/
  | query
  /-- `AdapterTimeoutError`. -/
  | timeout
  deriving DecidableEq

/-- An `AdapterError`: its class, its `operation` field and its `cause`. -/
structure AdapterError where
  /-- The subclass. -/
  kind : AdapterErrorKind
  /-- The operation that failed. -/
  operation : String
  /-- The driver exception handed over as `cause=`, where one is. -/
  cause : Option PyExc

/-- What a call of an adapter raises. -/
inductive Raised where
  /-- An `AdapterError`. -/
  | adapter (err : AdapterError)
  /-- Any other exception, let through as it is. -/
  | raw (exc : PyExc)

/-- The exception, where it is none of the adapters' own. -/
def Raised.rawExc : Raised → Option PyExc
  | .raw exc => some exc
  | .adapter _ => none

/-- What a `try` raises whose clauses all raise an `AdapterError`. -/
def translate (clauses : Clauses Cls AdapterError) (exc : PyExc) : Raised :=
  match dispatch clauses exc with
  | some err => .adapter err
  | none => .raw exc

/-- An instance of exactly `TimeoutError`, as an expired `asyncio.timeout` raises. -/
def timeoutError : PyExc := .of [.timeoutError, .osError, .exception] (by decide)

/-- An instance of exactly `TypeError`. -/
def typeError : PyExc := .of [.typeError, .exception] (by decide)

/-- An instance of exactly `AttributeError`. -/
def attributeError : PyExc := .of [.attributeError, .exception] (by decide)

/-- An instance of exactly `UnboundLocalError`. -/
def unboundLocalError : PyExc := .of [.unboundLocalError, .exception] (by decide)

/-- An instance of exactly `RuntimeError`. -/
def runtimeError : PyExc := .of [.runtimeError, .exception] (by decide)

/-- An instance of exactly `ValueError`. -/
def valueError : PyExc := .of [.valueError, .exception] (by decide)

/-- An instance of exactly `redis.exceptions.TimeoutError`. -/
def redisTimeoutError : PyExc := .of [.redisTimeoutError, .redisError, .exception] (by decide)

/-- An instance of exactly `redis.exceptions.ResponseError`. -/
def redisResponseError : PyExc := .of [.redisResponseError, .redisError, .exception] (by decide)

/-- An `Exception` of a class that no adapter names. -/
def unnamedError : PyExc := .of [.exception] (by decide)

/-- An `IndexError`, which no adapter names. -/
def indexError : PyExc := unnamedError

/-- A `KeyError`, which no adapter names. -/
def keyError : PyExc := unnamedError

/-- An `asyncio.CancelledError`: a `BaseException`, and no `Exception`. -/
def cancelledError : PyExc := .of [] (by decide)

example : cancelledError.isa .exception = false := by decide

end OpenframeAdapters.Core
