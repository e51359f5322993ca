import AzureAci.Go
import AzureAci.Kube
import AzureAci.Aci
import AzureAci.Provider
import AzureAci.Containers
import AzureAci.Base64
import AzureAci.Credentials
import AzureAci.WindowsFilter
import AzureAci.CreatePod
import AzureAci.Delete
import AzureAci.GetPods
import AzureAci.NewProvider
import AzureAci.Exec
import AzureAci.Metrics.Cache
import AzureAci.Metrics.Refinement
