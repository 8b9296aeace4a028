import RdsMetricCollector.Collector.CloudWatchIsolation
import RdsMetricCollector.Collector.Postgres
import RdsMetricCollector.Connections
import RdsMetricCollector.Deployment
import RdsMetricCollector.Gauges
import RdsMetricCollector.Identifiers
import RdsMetricCollector.Pacing
import RdsMetricCollector.PqTimeouts.Closing
import RdsMetricCollector.PqTimeouts.Deadlines
import RdsMetricCollector.Process.Ending
import RdsMetricCollector.Process.Fleet
import RdsMetricCollector.Scheduler.Causes
import RdsMetricCollector.Scheduler.Contexts
import RdsMetricCollector.Scheduler.Emission
import RdsMetricCollector.Scheduler.InstanceGUIDs
import RdsMetricCollector.Scheduler.Monitoring
import RdsMetricCollector.Scheduler.Options
import RdsMetricCollector.Scheduler.Progress
import RdsMetricCollector.Scheduler.RefreshContract
import RdsMetricCollector.Scheduler.RetryDiscipline
import RdsMetricCollector.Scheduler.Sessions
import RdsMetricCollector.Scheduler.SqlCollection
import RdsMetricCollector.Scheduler.Stop
import RdsMetricCollector.Series
import RdsMetricCollector.WithTimeout
